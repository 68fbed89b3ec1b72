import SmartResidence.Billing.Dates
import SmartResidence.Proof.StatementRows
import SmartResidence.Proof.VendorPayables

/-!
# The dates of vendor bills

The clock of the server is always `offset` milliseconds ahead of UTC.
-/

namespace SmartResidence.Procurement

open Foundation Billing Accounting List

variable {engine : List Char → Option Instant} {offset : ℤ} {text other : List Char} {field : String} {day : ℤ}

/-- The day that `getFullYear`, `getMonth` and `getDate` tell. -/
def localDay (offset : ℤ) (instant : Instant) : ℤ := (instant + offset) / msPerDay

/-- `new Date(year, month, day)`: the months are counted from 0, and the years 0 to 99 are those from 1900 on. -/
def localDate (offset year month day : ℤ) : Instant :=
  dayOf (if 0 ≤ year ∧ year ≤ 99 then 1900 + year else year) (month + 1) day * msPerDay - offset

def parseDateOnly (engine : List Char → Option Instant) (offset : ℤ) (value : List Char) (field : String) : Outcome Instant :=
  match dateParse engine value with
  | none => .error (.badRequest ("Invalid " ++ field))
  | some d =>
      let day := localDay offset d
      .ok (localDate offset (yearOf day) (monthOfYear day - 1) (dayOfMonth day))

structure SerializedBill where
  billDate : List Char
  dueDate : List Char

def serializeDate (date : Instant) : List Char := (isoDate (date / msPerDay)).take 10

def serializeBill (bill : VendorBill) : SerializedBill := ⟨serializeDate bill.billDate, serializeDate bill.dueDate⟩

structure CreateVendorBillBody where
  condoId : Id
  vendorId : Id
  billNumber : String
  billDate : List Char
  dueDate : List Char
  amount : ℚ
  fund : LedgerFund
  amount_ge : 1 ≤ amount

def CreateVendorBillBody.dto (engine : List Char → Option Instant) (offset : ℤ) (body : CreateVendorBillBody) :
    Outcome CreateVendorBillDto := do
  let billDate ← parseDateOnly engine offset body.billDate "billDate"
  let dueDate ← parseDateOnly engine offset body.dueDate "dueDate"
  return ⟨body.condoId, body.vendorId, body.billNumber, asDate billDate, asDate dueDate, body.amount, body.fund,
    body.amount_ge⟩

def createBill (engine : List Char → Option Instant) (offset : ℤ) (db : ProcurementDb) (user : AuthenticatedUser)
    (body : CreateVendorBillBody) : Outcome ProcurementDb := do
  assertManagement user body.condoId
  assertVendorBillFund body.fund
  requireVendorOf db body.condoId body.vendorId
  let dto ← body.dto engine offset
  create db user dto

structure UpdateVendorBillBody where
  vendorId : Option Id
  billNumber : Option String
  billDate : Option (List Char)
  dueDate : Option (List Char)
  amount : Option ℚ
  fund : Option LedgerFund
  amount_ge : ∀ value ∈ amount, 1 ≤ value

def parseGiven (engine : List Char → Option Instant) (offset : ℤ) (field : String) : Option (List Char) → Outcome (Option Instant)
  | none => .ok none
  | some value => (parseDateOnly engine offset value field).map fun date => some (asDate date)

def UpdateVendorBillBody.dto (engine : List Char → Option Instant) (offset : ℤ) (body : UpdateVendorBillBody) :
    Outcome UpdateVendorBillDto := do
  let billDate ← parseGiven engine offset "billDate" body.billDate
  let dueDate ← parseGiven engine offset "dueDate" body.dueDate
  return ⟨body.vendorId, body.billNumber, billDate, dueDate, body.amount, body.fund, body.amount_ge⟩

/-! ## Days and their texts -/

variable {year month : ℕ}

theorem isoParts_split {dayOfMonth : ℕ} (parts : isoParts text = some (year, month, dayOfMonth)) :
    ∃ y m d, text = y ++ '-' :: (m ++ '-' :: d) ∧ (y.length = 4 ∧ m.length = 2 ∧ d.length = 2) ∧
      (∀ c ∈ y ++ (m ++ d), c.isDigit = true) ∧ digitsValue y = year ∧ digitsValue m = month ∧ digitsValue d = dayOfMonth := by
  unfold isoParts at parts
  split at parts
  · rename_i a b c k e f g h
    split at parts
    · rename_i digits
      simp only [Option.some.injEq, Prod.mk.injEq] at parts
      exact ⟨[a, b, c, k], [e, f], [g, h], rfl, ⟨rfl, rfl, rfl⟩, all_eq_true.mp digits, parts⟩
    · cases parts
  · cases parts

theorem isoParts_inj {parts : ℕ × ℕ × ℕ} (first : isoParts text = some parts) (second : isoParts other = some parts) :
    text = other := by
  obtain ⟨y, m, d, rfl, ⟨ofYear, ofMonth, ofDay⟩, digits, isYear, isMonth, isDay⟩ := isoParts_split first
  obtain ⟨y', m', d', rfl, ⟨ofYear', ofMonth', ofDay'⟩, digits', isYear', isMonth', isDay'⟩ := isoParts_split second
  simp only [mem_append, or_imp, forall_and] at digits digits'
  have years := (digits_inj (ofYear.trans ofYear'.symm) digits.1 digits'.1).mpr (isYear.trans isYear'.symm)
  have months := (digits_inj (ofMonth.trans ofMonth'.symm) digits.2.1 digits'.2.1).mpr (isMonth.trans isMonth'.symm)
  have days := (digits_inj (ofDay.trans ofDay'.symm) digits.2.2 digits'.2.2).mpr (isDay.trans isDay'.symm)
  rw [years, months, days]

theorem isoParts_isoDate (first : 0 ≤ yearOf day) (last : yearOf day ≤ 9999) :
    isoParts ((isoDate day).take 10) = some ((yearOf day).toNat, (monthOfYear day).toNat, (dayOfMonth day).toNat) := by
  have months := monthOfYear_bounds day
  have days := dayOfMonth_bounds day
  have year : isoYear (yearOf day) = padStart 4 (Nat.toDigits 10 (yearOf day).toNat) := by
    rw [isoYear, if_pos ⟨first, last⟩]
  have ofYear : (isoYear (yearOf day)).length = 4 := by
    rw [year]
    exact length_padStart (by decide) (by omega)
  have ofMonth := length_twoDigits (by omega : monthOfYear day < 100)
  have ofDay := length_twoDigits (by omega : dayOfMonth day < 100)
  have short : (isoDate day).length ≤ 10 := by
    rw [isoDate, dashed]
    simp only [length_append, length_cons, ofYear, ofMonth, ofDay]
    decide
  rw [take_of_length_le short, isoDate, dashed, isoParts_joined _ ofYear ofMonth ofDay, year, digitsValue_padStart,
    digitsValue_twoDigits, digitsValue_twoDigits]
  intro c mem
  rw [year] at mem
  simp only [mem_append] at mem
  rcases mem with mem | mem | mem
  · exact isDigit_padStart c mem
  · exact twoDigits_digits c mem
  · exact twoDigits_digits c mem

theorem isoParts_signed (outside : ¬ (0 ≤ yearOf day ∧ yearOf day ≤ 9999)) : isoParts ((isoDate day).take 10) = none := by
  have signed : ∃ sign rest, (sign = '-' ∨ sign = '+') ∧ (isoDate day).take 10 = sign :: rest := by
    rw [isoDate, isoYear, if_neg outside]
    refine ⟨_, _, ?_, rfl⟩
    split
    · exact .inl rfl
    · exact .inr rfl
  obtain ⟨sign, rest, isSign, same⟩ := signed
  rw [same]
  unfold isoParts
  split
  · rename_i a b c k e f g h shape
    rw [if_neg]
    intro digits
    have digit : a.isDigit = true := all_eq_true.mp digits a mem_cons_self
    obtain ⟨rfl, _⟩ := List.cons.inj shape
    rcases isSign with rfl | rfl
    · exact absurd digit (by decide)
    · exact absurd digit (by decide)
  · rfl

variable {dayOfMonth' : ℕ}

theorem serialized_iff (parts : isoParts text = some (year, month, dayOfMonth')) :
    (isoDate day).take 10 = text ↔ yearOf day = year ∧ monthOfYear day = month ∧ dayOfMonth day = dayOfMonth' := by
  have months := monthOfYear_bounds day
  have days := dayOfMonth_bounds day
  constructor
  · intro same
    by_cases inside : 0 ≤ yearOf day ∧ yearOf day ≤ 9999
    · have read := isoParts_isoDate inside.1 inside.2
      rw [same, parts] at read
      simp only [Option.some.injEq, Prod.mk.injEq] at read
      omega
    · have read := isoParts_signed inside
      rw [same, parts] at read
      cases read
  · rintro ⟨isYear, isMonth, isDay⟩
    obtain ⟨y, m, d, _, ⟨ofYear, _, _⟩, digits, value, _, _⟩ := isoParts_split parts
    have small := digitsValue_lt fun c mem => digits c (mem_append_left _ mem)
    rw [ofYear] at small
    have read : isoParts ((isoDate day).take 10) = _ := isoParts_isoDate (by omega) (by omega)
    rw [isYear, isMonth, isDay] at read
    exact isoParts_inj read parts

/-! ## What is stored -/

def Kept (offset : ℤ) (text : List Char) : Prop :=
  offset = 0 ∧ ∃ year month dayOfMonth, isoParts text = some (year, month, dayOfMonth) ∧ 100 ≤ year ∧
    (calendarDay year month dayOfMonth).isSome

theorem asDate_day (instant : Instant) : asDate instant / msPerDay = instant / msPerDay := by
  exact Int.mul_ediv_cancel _ (by decide)

variable {instant : Instant}

theorem parsed_day (parts : isoParts text = some (year, month, dayOfMonth'))
    (accepted : parseDateOnly engine offset text field = .ok instant) :
    instant = localDate offset (yearOf (localDay offset (dayOf year month dayOfMonth' * msPerDay)))
      (monthOfYear (localDay offset (dayOf year month dayOfMonth' * msPerDay)) - 1)
      (dayOfMonth (localDay offset (dayOf year month dayOfMonth' * msPerDay))) := by
  unfold parseDateOnly at accepted
  rw [dateParse, parts] at accepted
  dsimp only at accepted
  split at accepted
  · cases accepted
  · rename_i d read
    split at read
    · cases read
      exact (Except.ok.inj accepted).symm
    · cases read

theorem localDate_late (late : ¬ (0 ≤ yearOf day ∧ yearOf day ≤ 99)) :
    localDate offset (yearOf day) (monthOfYear day - 1) (dayOfMonth day) = day * msPerDay - offset := by
  rw [localDate, if_neg late, Int.sub_add_cancel, dayOf_parts]

theorem localDate_early (behind : - (12 * 3600000) ≤ offset) (ahead : offset ≤ 14 * 3600000)
    (early : 0 ≤ yearOf day ∧ yearOf day ≤ 99) :
    day + 1 < localDate offset (yearOf day) (monthOfYear day - 1) (dayOfMonth day) / msPerDay := by
  have months := monthOfYear_bounds day
  have days := dayOfMonth_bounds day
  have before : day < monthStart (12 * (100 - 1970)) := by
    refine (monthOf_spec day).2.trans_le (monthStart_strictMono.monotone ?_)
    have century := early.2
    unfold yearOf at century
    omega
  have after : monthStart (12 * (1900 - 1970)) ≤ monthStart (12 * (1900 + yearOf day - 1970) + (monthOfYear day - 1)) :=
    monthStart_strictMono.monotone (by omega)
  have first : monthStart (12 * (100 - 1970)) = -683003 := by decide
  have second : monthStart (12 * (1900 - 1970)) = -25567 := by decide
  rw [localDate, if_pos early, Int.sub_add_cancel, dayOf]
  unfold msPerDay
  omega

theorem date_kept_iff (behind : - (12 * 3600000) ≤ offset) (ahead : offset ≤ 14 * 3600000)
    (written : (isoParts text).isSome) (accepted : parseDateOnly engine offset text field = .ok instant) :
    serializeDate (asDate instant) = text ↔ Kept offset text := by
  obtain ⟨⟨year, month, dayOfMonth'⟩, parts⟩ := Option.isSome_iff_exists.mp written
  have stored := parsed_day parts accepted
  rw [serializeDate, asDate_day, stored, serialized_iff parts]
  generalize whole : dayOf year month dayOfMonth' = day
  constructor
  · rintro ⟨isYear, isMonth, isDay⟩
    have same := dayOf_parts (localDate offset (yearOf (localDay offset (day * msPerDay)))
      (monthOfYear (localDay offset (day * msPerDay)) - 1) (dayOfMonth (localDay offset (day * msPerDay))) / msPerDay)
    rw [isYear, isMonth, isDay, whole, eq_comm] at same
    have near : localDay offset (day * msPerDay) = if 0 ≤ offset then day else day - 1 := by
      unfold localDay msPerDay
      split <;> omega
    have late : ¬ (0 ≤ yearOf (localDay offset (day * msPerDay)) ∧ yearOf (localDay offset (day * msPerDay)) ≤ 99) := by
      intro early
      have far := localDate_early behind ahead early
      split at near <;> omega
    have utc : offset = 0 := by
      rw [localDate_late late, near] at same
      unfold msPerDay at same
      split at same <;> omega
    refine ⟨utc, year, month, dayOfMonth', parts, ?_, ?_⟩
    · rw [near, if_pos utc.ge] at late
      rw [same] at isYear
      omega
    · rw [same] at isYear isMonth isDay
      have months := monthOfYear_bounds day
      have days := dayOfMonth_bounds day
      have first : 12 * ((year : ℤ) - 1970) + ((month : ℤ) - 1) = monthOf day := by
        rw [← isYear, ← isMonth]
        unfold yearOf monthOfYear
        omega
      have short : (dayOfMonth' : ℤ) ≤ monthLength (monthOf day) := by
        rw [← isDay]
        have ends := (monthOf_spec day).2
        unfold dayOfMonth monthLength
        omega
      unfold calendarDay
      rw [first, if_pos ⟨by omega, by omega, by omega, short⟩]
      rfl
  · rintro ⟨rfl, year', month', day', parts', late, exists'⟩
    rw [parts] at parts'
    obtain ⟨rfl, rfl, rfl⟩ : year = year' ∧ month = month' ∧ dayOfMonth' = day' := by simpa using parts'
    unfold calendarDay at exists'
    dsimp only at exists'
    split at exists'
    · rename_i mem
      have inMonth : monthOf day = 12 * ((year : ℤ) - 1970) + ((month : ℤ) - 1) := by
        refine monthOf_eq_iff.mp ?_
        have length := mem.2.2.2
        rw [← whole]
        unfold dayOf
        unfold monthLength at length
        omega
      have isYear : yearOf day = year := by
        unfold yearOf
        omega
      have isMonth : monthOfYear day = month := by
        unfold monthOfYear
        omega
      have isDay : dayOfMonth day = dayOfMonth' := by
        unfold dayOfMonth
        rw [inMonth, ← whole]
        unfold dayOf
        omega
      have same : localDay 0 (day * msPerDay) = day := by
        unfold localDay msPerDay
        omega
      have back : localDate 0 (yearOf day) (monthOfYear day - 1) (dayOfMonth day) / msPerDay = day := by
        rw [localDate_late (by omega), Int.sub_zero]
        exact Int.mul_ediv_cancel _ (by decide)
      rw [same, back]
      exact ⟨isYear, isMonth, isDay⟩
    · cases exists'

theorem createBill_row {db after : ProcurementDb} {user : AuthenticatedUser} {body : CreateVendorBillBody}
    (created : createBill engine offset db user body = .ok after) : ∃ billDate dueDate bill,
    parseDateOnly engine offset body.billDate "billDate" = .ok billDate ∧
      parseDateOnly engine offset body.dueDate "dueDate" = .ok dueDate ∧ after.bills = db.bills ++ [bill] ∧
        bill.billDate = asDate billDate ∧ bill.dueDate = asDate dueDate := by
  obtain ⟨_, _, created⟩ := bind_ok.mp created
  obtain ⟨_, _, created⟩ := bind_ok.mp created
  obtain ⟨_, _, created⟩ := bind_ok.mp created
  obtain ⟨dto, reads, created⟩ := bind_ok.mp created
  obtain ⟨billDate, first, reads⟩ := bind_ok.mp reads
  obtain ⟨dueDate, second, reads⟩ := bind_ok.mp reads
  cases reads
  obtain ⟨_, _, created⟩ := bind_ok.mp created
  obtain ⟨_, _, created⟩ := bind_ok.mp created
  obtain ⟨_, _, created⟩ := bind_ok.mp created
  obtain ⟨_, _, created⟩ := bind_ok.mp created
  cases created
  exact ⟨billDate, dueDate, _, first, second, rfl, rfl, rfl⟩

theorem parseGiven_ok {given : Option (List Char)} {date : Option Instant}
    (reads : parseGiven engine offset field given = .ok date) :
    (given = none → date = none) ∧ ∀ text ∈ given, ∃ instant, parseDateOnly engine offset text field = .ok instant ∧
      date = some (asDate instant) := by
  cases given with
  | none => exact ⟨fun _ => (Except.ok.inj reads).symm, by simp⟩
  | some value =>
    refine ⟨by simp, fun text same => ?_⟩
    cases same
    unfold parseGiven at reads
    dsimp only at reads
    cases read : parseDateOnly engine offset value field with
    | error failure =>
      rw [read] at reads
      cases reads
    | ok instant =>
      rw [read] at reads
      exact ⟨instant, rfl, (Except.ok.inj reads).symm⟩

/-- The dates of a bill that is created or edited, as they are read back. -/
theorem bill_dates_kept (behind : - (12 * 3600000) ≤ offset) (ahead : offset ≤ 14 * 3600000) :
    (∀ db after user body, (isoParts body.billDate).isSome → (isoParts body.dueDate).isSome →
      createBill engine offset db user body = .ok after → ∃ bill, after.bills = db.bills ++ [bill] ∧
        ((serializeBill bill).billDate = body.billDate ↔ Kept offset body.billDate) ∧
        ((serializeBill bill).dueDate = body.dueDate ↔ Kept offset body.dueDate)) ∧
    ∀ env now db id bill body dto, UpdateVendorBillBody.dto engine offset body = .ok dto → db.bill? id = some bill →
      db.numberTaken (dto.edited bill).condoId (dto.edited bill).billNumber (some id) = false →
      ∃ row, ((InFlight.editing id dto).advance env now db).1.bill? id = some row ∧
        (∀ text ∈ body.billDate, (isoParts text).isSome → ((serializeBill row).billDate = text ↔ Kept offset text)) ∧
        (∀ text ∈ body.dueDate, (isoParts text).isSome → ((serializeBill row).dueDate = text ↔ Kept offset text)) ∧
        (body.billDate = none → row.billDate = bill.billDate) ∧ (body.dueDate = none → row.dueDate = bill.dueDate) := by
  constructor
  · intro db after user body first second created
    obtain ⟨billDate, dueDate, bill, read, read', rows, its, its'⟩ := createBill_row created
    refine ⟨bill, rows, ?_, ?_⟩
    · rw [serializeBill, its]
      exact date_kept_iff behind ahead first read
    · rw [serializeBill, its']
      exact date_kept_iff behind ahead second read'
  · intro env now db id bill body dto reads found free
    obtain ⟨billDate, first, reads⟩ := bind_ok.mp reads
    obtain ⟨dueDate, second, reads⟩ := bind_ok.mp reads
    obtain rfl := Except.ok.inj reads
    obtain ⟨none, given⟩ := parseGiven_ok first
    obtain ⟨none', given'⟩ := parseGiven_ok second
    let dto : UpdateVendorBillDto :=
      ⟨body.vendorId, body.billNumber, billDate, dueDate, body.amount, body.fund, body.amount_ge⟩
    refine ⟨dto.edited bill, ?_, ?_, ?_, ?_, ?_⟩
    · simp only [InFlight.advance, found, free]
      have own := (mem_of_findBy found).2
      have reads : findBy VendorBill.id id db.bills = some bill := found
      have kept : ∀ row, (dto.edited row).id = row.id := fun _ => rfl
      show findBy VendorBill.id id (updateBy VendorBill.id id dto.edited db.bills) = some (dto.edited bill)
      rw [findBy_updateBy kept, reads, Option.map_some, if_pos own]
    · intro text member written
      obtain ⟨instant, read, rfl⟩ := given text member
      exact date_kept_iff behind ahead written read
    · intro text member written
      obtain ⟨instant, read, rfl⟩ := given' text member
      exact date_kept_iff behind ahead written read
    · intro absent
      have same : dto.billDate = Option.none := none absent
      rw [UpdateVendorBillDto.edited, same]
      rfl
    · intro absent
      have same : dto.dueDate = Option.none := none' absent
      rw [UpdateVendorBillDto.edited, same]
      rfl

namespace Sample

def juneBill : CreateVendorBillBody :=
  ⟨5, 0, "B-1", "2026-06-01".toList, "2026-06-30".toList, 10000, .maintenance, by norm_num⟩

def juneDates (offset : ℤ) : Outcome (List (List Char)) :=
  (createBill (fun _ => none) offset (started ⟨0, [], [], [], []⟩) admin juneBill).map fun db =>
    db.bills.map fun bill => (serializeBill bill).billDate

theorem juneDates_ok {offset : ℤ} {dates : List (List Char)} (ends : juneDates offset = .ok dates) :
    ∃ after, createBill (fun _ => none) offset (started ⟨0, [], [], [], []⟩) admin juneBill = .ok after ∧
      (after.bills.map fun bill => (serializeBill bill).billDate) = dates := by
  unfold juneDates at ends
  cases created : createBill (fun _ => none) offset (started ⟨0, [], [], [], []⟩) admin juneBill with
  | error failure =>
    rw [created] at ends
    cases ends
  | ok after =>
    rw [created] at ends
    exact ⟨after, rfl, Except.ok.inj ends⟩

end Sample

theorem bill_dates_kept_utc : ∃ after bill,
    createBill (fun _ => none) 0 (Sample.started ⟨0, [], [], [], []⟩) Sample.admin Sample.juneBill = .ok after ∧
      after.bills = [bill] ∧ (serializeBill bill).billDate = Sample.juneBill.billDate := by
  have ends : Sample.juneDates 0 = .ok ["2026-06-01".toList] := by decide +kernel
  obtain ⟨after, created, _⟩ := Sample.juneDates_ok ends
  obtain ⟨bill, rows, kept, _⟩ := (bill_dates_kept (by decide) (by decide)).1 _ after _ Sample.juneBill (by decide +kernel)
    (by decide +kernel) created
  refine ⟨after, bill, created, rows, kept.mpr ⟨rfl, 2026, 6, 1, ?_, ?_, ?_⟩⟩
  · decide +kernel
  · decide
  · decide +kernel

theorem bill_dates_shifted : ¬ ∀ (engine : List Char → Option Instant) (offset : ℤ) (db after : ProcurementDb)
    (user : AuthenticatedUser) (body : CreateVendorBillBody), - (12 * 3600000) ≤ offset → offset ≤ 14 * 3600000 →
    (isoParts body.billDate).isSome → (isoParts body.dueDate).isSome →
    createBill engine offset db user body = .ok after →
    ∃ bill, after.bills = db.bills ++ [bill] ∧ (serializeBill bill).billDate = body.billDate := by
  intro survives
  have ends : Sample.juneDates (8 * 3600000) = .ok ["2026-05-31".toList] := by decide +kernel
  obtain ⟨after, created, dates⟩ := Sample.juneDates_ok ends
  obtain ⟨bill, rows, same⟩ := survives _ _ _ after _ _ (by decide) (by decide) (by decide +kernel) (by decide +kernel) created
  rw [rows] at dates
  have other : [(serializeBill bill).billDate] = ["2026-05-31".toList] := dates
  rw [same] at other
  exact absurd other (by decide +kernel)

end SmartResidence.Procurement
