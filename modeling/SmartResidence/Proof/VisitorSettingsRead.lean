import SmartResidence.Settings.VisitorSettings

/-!
# Visitor settings, written and read

The parser of the stored settings has its own notion of a value, and puts a default in the place of what it takes for
missing.
-/

namespace SmartResidence.Settings

open Foundation Billing List

/-! ## What the parser makes of a value -/

theorem filter_twice {Value : Type*} (chosen : Value → Bool) (values : List Value) :
    (values.filter chosen).filter chosen = values.filter chosen :=
  filter_eq_self.mpr fun _ kept => (mem_filter.mp kept).2

section

variable {number fallback : ℚ} {days : List ℚ} {dates : List String}

theorem positive?_number (pos : 0 < number) : (positive? (.number number)).getD fallback = number := by
  have kept : (some number).filter (fun n => decide (0 < n)) = some number := Option.filter_eq_some_iff.mpr ⟨rfl, decide_eq_true pos⟩
  unfold positive? Json.number?
  rw [kept, Option.getD_some]

theorem parsePositiveInt_eq (whole : number.den = 1) (least : 0 ≤ number) (other : fallback ≠ 0) :
    parsePositiveInt (.number number) fallback = number ↔ number ≠ 0 := by
  unfold parsePositiveInt
  by_cases zero : number = 0
  · subst zero
    simpa using other
  · have pos : 0 < number := lt_of_le_of_ne least (Ne.symm zero)
    simp [zero, pos, whole]

theorem parsePositiveInt_number (whole : number.den = 1) (pos : 0 < number) :
    parsePositiveInt (.number number) fallback = number := if_pos ⟨pos, whole⟩

def keptDays (days : List ℚ) : List ℚ := days.filter fun day => decide (1 ≤ day ∧ day ≤ 7)

theorem parseWeekdays_numbers : parseWeekdays (.array (days.map .number)) =
    if keptDays days = [] then [1, 2, 3, 4, 5] else keptDays days := by
  have numbers : (days.map Json.number).filterMap Json.number? = days := by
    rw [filterMap_map]
    exact filterMap_some
  unfold parseWeekdays isoWeekdays
  simp only [Json.items?, Option.getD_some, numbers]
  rfl

theorem keptDays_idem : keptDays (keptDays days) = keptDays days := filter_twice _ _

theorem keptDays_five : keptDays [1, 2, 3, 4, 5] = [1, 2, 3, 4, 5] := by norm_num [keptDays]

theorem parseWeekdays_kept (value : Json) : parseWeekdays value ≠ [] ∧ keptDays (parseWeekdays value) = parseWeekdays value := by
  have read : ∀ value, keptDays (isoWeekdays value) = isoWeekdays value := fun _ => filter_twice _ _
  have either : ∀ days, keptDays days = days → (if days = [] then [1, 2, 3, 4, 5] else days) ≠ [] ∧
      keptDays (if days = [] then [1, 2, 3, 4, 5] else days) = if days = [] then [1, 2, 3, 4, 5] else days := by
    intro days kept
    split
    · exact ⟨cons_ne_nil _ _, keptDays_five⟩
    · rename_i some
      exact ⟨some, kept⟩
  unfold parseWeekdays
  cases value.items? with
  | none => exact either _ keptDays_five
  | some items => exact either _ (read value)

theorem parsePositiveInt_pos (value : Json) (whole : fallback.den = 1) (pos : 0 < fallback) :
    (parsePositiveInt value fallback).den = 1 ∧ 0 < parsePositiveInt value fallback := by
  unfold parsePositiveInt
  split
  · split
    · rename_i valid
      exact valid.symm
    · exact ⟨whole, pos⟩
  · exact ⟨whole, pos⟩

theorem positive?_pos {value : Json} (read : positive? value = some number) : 0 < number :=
  of_decide_eq_true (Option.filter_eq_some_iff.mp read).2

theorem holidayDates_texts : holidayDates (texts dates) = dates.filter isHolidayDateString := by
  have strings : (dates.map Json.string).filterMap Json.string? = dates := by
    rw [filterMap_map]
    exact filterMap_some
  unfold holidayDates texts
  simp only [Json.items?, Option.getD_some, strings]

theorem normalizeHolidayState_idem (state : Json) :
    normalizeHolidayState (.string (normalizeHolidayState state)) = normalizeHolidayState state := by
  unfold normalizeHolidayState
  cases state with
  | string text =>
    by_cases known : text ∈ stateCodes
    · simp [known]
    · simp only [known]
      rfl
  | _ => rfl

theorem parsePurpose_known {text fallback' : String} (known : text ∈ visitorPurposes) : parsePurpose (.string text) fallback' = text :=
  if_pos known

end

/-! ## Settings -/

def VisitorSettings.holidayConfig (settings : VisitorSettings) : HolidayConfig :=
  ⟨settings.holidayAuto, settings.holidayState, settings.customHolidays, settings.holidayExclusions⟩

structure VisitorSettings.Effective (settings : VisitorSettings) : Prop where
  cap : 0 < settings.maxOvernightVisitsPerUnitPerMonth
  slots : settings.overnightSlotsPerNight.den = 1 ∧ 0 < settings.overnightSlotsPerNight
  approval : settings.walkInApprovalMinutes.den = 1 ∧ 0 < settings.walkInApprovalMinutes
  buffer : settings.preRegExpiryBufferMins.den = 1 ∧ 0 < settings.preRegExpiryBufferMins
  urgent : settings.urgentOvernightMinHours.den = 1 ∧ 0 < settings.urgentOvernightMinHours
  weekdays : settings.weekdays ≠ [] ∧ keptDays settings.weekdays = settings.weekdays
  state : normalizeHolidayState (.string settings.holidayState) = settings.holidayState
  custom : settings.customHolidays.filter isHolidayDateString = settings.customHolidays
  exclusions : settings.holidayExclusions.filter isHolidayDateString = settings.holidayExclusions
  purpose : settings.defaultPurpose ∈ visitorPurposes

def VisitorSettings.reread (env : HolidayEnv) (now : Instant) (settings : VisitorSettings) : VisitorSettings :=
  let config : HolidayConfig :=
    { holidayAuto := settings.holidayAuto
      holidayState := normalizeHolidayState (.string settings.holidayState)
      customHolidays := settings.customHolidays.filter isHolidayDateString
      holidayExclusions := settings.holidayExclusions.filter isHolidayDateString }
  { settings with
    maxOvernightVisitsPerUnitPerMonth := (positive? (.number settings.maxOvernightVisitsPerUnitPerMonth)).getD 4
    overnightSlotsPerNight := parsePositiveInt (.number settings.overnightSlotsPerNight) 10
    walkInApprovalMinutes := parsePositiveInt (.number settings.walkInApprovalMinutes) 15
    preRegExpiryBufferMins := parsePositiveInt (.number settings.preRegExpiryBufferMins) 120
    urgentOvernightMinHours := parsePositiveInt (.number settings.urgentOvernightMinHours) 24
    weekdays := parseWeekdays (.array (settings.weekdays.map .number))
    holidayState := config.holidayState
    customHolidays := config.customHolidays
    holidayExclusions := config.holidayExclusions
    publicHolidays := resolveCondoHolidayDates env now config
    defaultPurpose := parsePurpose (.string settings.defaultPurpose) "VISITOR" }

section

variable {env : HolidayEnv} {now : Instant} {value : Json} {settings : VisitorSettings}

theorem parse_toJson (fields : List (String × Json)) :
    parseCondoVisitorSettings env now (.object (assign "visitor" settings.toJson fields)) = settings.reread env now := by
  have custom : holidayDates (settings.toJson.get "customHolidays") = settings.customHolidays.filter isHolidayDateString :=
    holidayDates_texts
  have exclusions : holidayDates (settings.toJson.get "holidayExclusions") = settings.holidayExclusions.filter isHolidayDateString :=
    holidayDates_texts
  have config : parseHolidayConfig env now settings.toJson = ⟨settings.holidayAuto, normalizeHolidayState (.string settings.holidayState),
      settings.customHolidays.filter isHolidayDateString, settings.holidayExclusions.filter isHolidayDateString⟩ := by
    rw [← custom, ← exclusions]
    rfl
  unfold parseCondoVisitorSettings
  rw [get_assign_self]
  have record : settings.toJson.isRecord = true := rfl
  simp only [config]
  have cap : (positive? (settings.toJson.get "maxOvernightVisitsPerUnitPerMonth") <|>
      positive? (settings.toJson.get "maxOvernightVisitsPerOwnerPerMonth")) =
        positive? (.number settings.maxOvernightVisitsPerUnitPerMonth) := by
    show (positive? (.number settings.maxOvernightVisitsPerUnitPerMonth) <|> none) = _
    cases positive? (.number settings.maxOvernightVisitsPerUnitPerMonth) <;> rfl
  rw [cap]
  rfl

theorem parse_effective (env : HolidayEnv) (now : Instant) (value : Json) :
    (parseCondoVisitorSettings env now value).Effective := by
  have dates : ∀ value, (holidayDates value).filter isHolidayDateString = holidayDates value :=
    fun _ => filter_twice _ _
  have config : ∀ visitor, normalizeHolidayState (.string (parseHolidayConfig env now visitor).holidayState) =
        (parseHolidayConfig env now visitor).holidayState ∧
      (parseHolidayConfig env now visitor).customHolidays.filter isHolidayDateString =
        (parseHolidayConfig env now visitor).customHolidays ∧
      (parseHolidayConfig env now visitor).holidayExclusions.filter isHolidayDateString =
        (parseHolidayConfig env now visitor).holidayExclusions := by
    intro visitor
    unfold parseHolidayConfig
    split
    · exact ⟨normalizeHolidayState_idem _, dates _, dates _⟩
    · refine ⟨normalizeHolidayState_idem _, ?_, dates _⟩
      simp only
      split
      · rw [filter_comm, dates]
      · exact dates _
  unfold parseCondoVisitorSettings
  constructor
  · show 0 < (positive? _ <|> positive? _).getD 4
    generalize value.get "visitor" = visitor
    cases cap : positive? (visitor.get "maxOvernightVisitsPerUnitPerMonth") with
    | some number => exact positive?_pos cap
    | none =>
      cases old : positive? (visitor.get "maxOvernightVisitsPerOwnerPerMonth") with
      | some number => exact positive?_pos old
      | none => exact four_pos
  · exact parsePositiveInt_pos _ rfl (by norm_num)
  · exact parsePositiveInt_pos _ rfl (by norm_num)
  · exact parsePositiveInt_pos _ rfl (by norm_num)
  · exact parsePositiveInt_pos _ rfl (by norm_num)
  · exact parseWeekdays_kept _
  · simp only
    split
    · exact (config _).1
    · rfl
  · simp only
    split
    · exact (config _).2.1
    · rfl
  · simp only
    split
    · exact (config _).2.2
    · rfl
  · show parsePurpose _ _ ∈ visitorPurposes
    unfold parsePurpose
    split
    · split
      · assumption
      · decide
    · decide

end

/-! ## Updates -/

structure UpdateVisitorSettingsDto.Accepted (dto : UpdateVisitorSettingsDto) : Prop where
  cap : ∀ number ∈ dto.maxOvernightVisitsPerUnitPerMonth, number.den = 1 ∧ 1 ≤ number
  slots : ∀ number ∈ dto.overnightSlotsPerNight, number.den = 1 ∧ 1 ≤ number
  approval : ∀ number ∈ dto.walkInApprovalMinutes, number.den = 1 ∧ 1 ≤ number
  buffer : ∀ number ∈ dto.preRegExpiryBufferMins, number.den = 1 ∧ 0 ≤ number
  urgent : ∀ number ∈ dto.urgentOvernightMinHours, number.den = 1 ∧ 1 ≤ number
  state : ∀ text ∈ dto.holidayState, text.length ≤ 2
  purpose : ∀ text ∈ dto.defaultPurpose, text ∈ visitorPurposes

def UpdateVisitorSettingsDto.asked (env : HolidayEnv) (now : Instant) (dto : UpdateVisitorSettingsDto)
    (current : VisitorSettings) : VisitorSettings :=
  let config : HolidayConfig :=
    { holidayAuto := dto.holidayAuto.getD current.holidayAuto
      holidayState := (dto.holidayState.map fun state => normalizeHolidayState (.string state)).getD current.holidayState
      customHolidays := ((dto.customHolidays <|> dto.publicHolidays).map (List.filter isHolidayDateString)).getD
        current.customHolidays
      holidayExclusions := (dto.holidayExclusions.map (List.filter isHolidayDateString)).getD current.holidayExclusions }
  { maxOvernightVisitsPerUnitPerMonth :=
      dto.maxOvernightVisitsPerUnitPerMonth.getD current.maxOvernightVisitsPerUnitPerMonth
    overnightSlotsPerNight := dto.overnightSlotsPerNight.getD current.overnightSlotsPerNight
    walkInApprovalMinutes := dto.walkInApprovalMinutes.getD current.walkInApprovalMinutes
    walkInRequireOwnerApproval := dto.walkInRequireOwnerApproval.getD current.walkInRequireOwnerApproval
    preRegExpiryBufferMins := dto.preRegExpiryBufferMins.getD current.preRegExpiryBufferMins
    urgentOvernightMinHours := dto.urgentOvernightMinHours.getD current.urgentOvernightMinHours
    weekdays := dto.weekdays.getD current.weekdays
    holidayAuto := config.holidayAuto
    holidayState := config.holidayState
    customHolidays := config.customHolidays
    holidayExclusions := config.holidayExclusions
    publicHolidays := resolveCondoHolidayDates env now config
    holidayOvernightAutoApprove := dto.holidayOvernightAutoApprove.getD current.holidayOvernightAutoApprove
    countPendingTowardCap := dto.countPendingTowardCap.getD current.countPendingTowardCap
    requirePlatePhotoOvernight := dto.requirePlatePhotoOvernight.getD current.requirePlatePhotoOvernight
    defaultPurpose := dto.defaultPurpose.getD current.defaultPurpose }

/-- What an update at `now` leaves, read at any later time. The list of the public holidays is that of the time. -/
structure RoundTrip (env : HolidayEnv) (now : Instant) (settings : Json) (dto : UpdateVisitorSettingsDto) : Prop where
  read : ∀ later, parseCondoVisitorSettings env later (mergeVisitorSettings env now settings dto) =
    dto.asked env later (parseCondoVisitorSettings env now settings)
  sections : ∀ name, name ≠ "visitor" →
    (mergeVisitorSettings env now settings dto).record.lookup name = settings.spread.lookup name
  stored : mergeVisitorSettings env now (mergeVisitorSettings env now settings dto) dto = mergeVisitorSettings env now settings dto
  again : ∀ later, parseCondoVisitorSettings env later
      (mergeVisitorSettings env later (mergeVisitorSettings env now settings dto) dto) =
    parseCondoVisitorSettings env later (mergeVisitorSettings env now settings dto)

section

variable {env : HolidayEnv} {now later : Instant} {settings : Json} {current : VisitorSettings} {dto : UpdateVisitorSettingsDto}

theorem getD_of {Value : Type*} (holds : Value → Prop) {sent : Option Value} {kept : Value} (ofSent : ∀ value ∈ sent, holds value)
    (ofKept : holds kept) : holds (sent.getD kept) := by
  cases sent with
  | none => exact ofKept
  | some value => exact ofSent value rfl

theorem reread_next (accepted : dto.Accepted) (effective : current.Effective) :
    (dto.next env now current).reread env later = { dto.asked env later current with
        preRegExpiryBufferMins := parsePositiveInt (.number (dto.preRegExpiryBufferMins.getD current.preRegExpiryBufferMins)) 120
        weekdays := parseWeekdays (.array ((dto.next env now current).weekdays.map .number)) } := by
  have counts : ∀ {sent : Option ℚ} {kept fallback : ℚ}, (∀ number ∈ sent, number.den = 1 ∧ 1 ≤ number) →
      kept.den = 1 ∧ 0 < kept → parsePositiveInt (.number (sent.getD kept)) fallback = sent.getD kept := by
    intro sent kept fallback ofSent ofKept
    have valid : (sent.getD kept).den = 1 ∧ 0 < sent.getD kept :=
      getD_of (fun number : ℚ => number.den = 1 ∧ 0 < number)
        (fun number mem => ⟨(ofSent number mem).1, one_pos.trans_le (ofSent number mem).2⟩) ofKept
    exact parsePositiveInt_number valid.1 valid.2
  have cap : (positive? (.number (dto.maxOvernightVisitsPerUnitPerMonth.getD current.maxOvernightVisitsPerUnitPerMonth))).getD 4 =
      dto.maxOvernightVisitsPerUnitPerMonth.getD current.maxOvernightVisitsPerUnitPerMonth :=
    positive?_number (getD_of (0 < ·) (fun number mem => one_pos.trans_le (accepted.cap number mem).2) effective.cap)
  have state : normalizeHolidayState (.string (normalizeHolidayState (.string (dto.holidayState.getD current.holidayState)))) =
      (dto.holidayState.map fun state => normalizeHolidayState (.string state)).getD current.holidayState := by
    rw [normalizeHolidayState_idem]
    cases dto.holidayState with
    | none => exact effective.state
    | some state => rfl
  have custom : (((dto.customHolidays <|> dto.publicHolidays).getD current.customHolidays).filter isHolidayDateString).filter
      isHolidayDateString =
        ((dto.customHolidays <|> dto.publicHolidays).map (List.filter isHolidayDateString)).getD current.customHolidays := by
    rw [filter_twice]
    cases (dto.customHolidays <|> dto.publicHolidays) with
    | none => exact effective.custom
    | some dates => rfl
  have exclusions : ((dto.holidayExclusions.getD current.holidayExclusions).filter isHolidayDateString).filter isHolidayDateString =
      (dto.holidayExclusions.map (List.filter isHolidayDateString)).getD current.holidayExclusions := by
    rw [filter_twice]
    cases dto.holidayExclusions with
    | none => exact effective.exclusions
    | some dates => rfl
  have purpose : parsePurpose (.string (dto.defaultPurpose.getD current.defaultPurpose)) "VISITOR" =
      dto.defaultPurpose.getD current.defaultPurpose :=
    parsePurpose_known (getD_of (· ∈ visitorPurposes) accepted.purpose effective.purpose)
  unfold VisitorSettings.reread UpdateVisitorSettingsDto.next UpdateVisitorSettingsDto.asked
  simp only [cap, counts accepted.slots effective.slots, counts accepted.approval effective.approval,
    counts accepted.urgent effective.urgent, state, custom, exclusions, purpose]

theorem next_again (accepted : dto.Accepted) (effective : current.Effective) :
    dto.next env later ((dto.next env now current).reread env later) = dto.next env later current := by
  have same : ∀ {Value : Type} (sent : Option Value) (kept : Value), sent.getD (sent.getD kept) = sent.getD kept := by
    intro Value sent kept
    cases sent <;> rfl
  have buffer : dto.preRegExpiryBufferMins.getD
      (parsePositiveInt (.number (dto.preRegExpiryBufferMins.getD current.preRegExpiryBufferMins)) 120) =
        dto.preRegExpiryBufferMins.getD current.preRegExpiryBufferMins := by
    cases dto.preRegExpiryBufferMins with
    | none => exact parsePositiveInt_number effective.buffer.1 effective.buffer.2
    | some number => rfl
  have weekdays : (dto.weekdays.map keptDays).getD (parseWeekdays (.array ((dto.next env now current).weekdays.map .number))) =
      (dto.weekdays.map keptDays).getD current.weekdays := by
    unfold UpdateVisitorSettingsDto.next
    cases dto.weekdays with
    | none =>
      show parseWeekdays (.array (current.weekdays.map .number)) = current.weekdays
      rw [parseWeekdays_numbers, effective.weekdays.2, if_neg effective.weekdays.1]
    | some days => rfl
  have state : normalizeHolidayState (.string (dto.holidayState.getD
      ((dto.holidayState.map fun state => normalizeHolidayState (.string state)).getD current.holidayState))) =
        normalizeHolidayState (.string (dto.holidayState.getD current.holidayState)) := by
    cases dto.holidayState <;> rfl
  have custom : (((dto.customHolidays <|> dto.publicHolidays).getD
      (((dto.customHolidays <|> dto.publicHolidays).map (List.filter isHolidayDateString)).getD current.customHolidays)).filter
        isHolidayDateString) = ((dto.customHolidays <|> dto.publicHolidays).getD current.customHolidays).filter isHolidayDateString := by
    cases (dto.customHolidays <|> dto.publicHolidays) <;> rfl
  have exclusions : ((dto.holidayExclusions.getD
      ((dto.holidayExclusions.map (List.filter isHolidayDateString)).getD current.holidayExclusions)).filter isHolidayDateString) =
        (dto.holidayExclusions.getD current.holidayExclusions).filter isHolidayDateString := by
    cases dto.holidayExclusions <;> rfl
  rw [reread_next accepted effective]
  unfold keptDays at weekdays
  unfold UpdateVisitorSettingsDto.next UpdateVisitorSettingsDto.asked at *
  simp only [same, buffer, weekdays, state, custom, exclusions]

theorem assign_assign {Key Value : Type*} [DecidableEq Key] {key : Key} {first second : Value} {entries : List (Key × Value)} :
    assign key second (assign key first entries) = assign key second entries := by
  induction entries with
  | nil => simp [assign]
  | cons entry rest ih =>
    by_cases own : entry.1 = key
    · simp [assign, own]
    · simp [assign, own, ih]

structure UpdateVisitorSettingsDto.Taken (dto : UpdateVisitorSettingsDto) : Prop where
  buffer : dto.preRegExpiryBufferMins ≠ some 0
  weekdays : ∀ days ∈ dto.weekdays, days ≠ [] ∧ ∀ day ∈ days, 1 ≤ day ∧ day ≤ 7

theorem buffer_taken (accepted : dto.Accepted) (effective : current.Effective) :
    parsePositiveInt (.number (dto.preRegExpiryBufferMins.getD current.preRegExpiryBufferMins)) 120 =
      dto.preRegExpiryBufferMins.getD current.preRegExpiryBufferMins ↔ dto.preRegExpiryBufferMins ≠ some 0 := by
  cases sent : dto.preRegExpiryBufferMins with
  | none => simpa using parsePositiveInt_number effective.buffer.1 effective.buffer.2
  | some number =>
    obtain ⟨whole, least⟩ := accepted.buffer number sent
    rw [Option.getD_some, parsePositiveInt_eq whole least (by norm_num)]
    simp

theorem weekdays_taken (effective : current.Effective) :
    parseWeekdays (.array ((dto.next env now current).weekdays.map .number)) = dto.weekdays.getD current.weekdays ↔
      ∀ days ∈ dto.weekdays, days ≠ [] ∧ ∀ day ∈ days, 1 ≤ day ∧ day ≤ 7 := by
  unfold UpdateVisitorSettingsDto.next
  rw [parseWeekdays_numbers]
  cases dto.weekdays with
  | none =>
    have kept := effective.weekdays
    simp only [Option.map_none, Option.getD_none]
    rw [kept.2, if_neg kept.1]
    simp
  | some days =>
    have all : keptDays days = days ↔ ∀ day ∈ days, 1 ≤ day ∧ day ≤ 7 := by
      simp [keptDays]
    show (if keptDays (keptDays days) = [] then _ else keptDays (keptDays days)) = days ↔ _
    rw [keptDays_idem]
    constructor
    · rintro same _ ⟨⟩
      by_cases none : keptDays days = []
      · rw [if_pos none] at same
        rw [← same] at none
        cases none
      · rw [if_neg none] at same
        exact ⟨same ▸ none, all.mp same⟩
    · intro valid
      obtain ⟨some, within⟩ := valid days rfl
      rw [all.mpr within, if_neg some]

/-- Settings come back as they were sent if and only if the parser takes none of them for missing. -/
theorem settings_round_trip (accepted : dto.Accepted) : RoundTrip env now settings dto ↔ dto.Taken := by
  obtain ⟨current, before⟩ : ∃ current, parseCondoVisitorSettings env now settings = current := ⟨_, rfl⟩
  have effective : current.Effective := before ▸ parse_effective env now settings
  have merged : mergeVisitorSettings env now settings dto =
      .object (assign "visitor" (dto.next env now current).toJson settings.spread) := by
    unfold mergeVisitorSettings
    rw [before]
  have reread : ∀ later, parseCondoVisitorSettings env later (mergeVisitorSettings env now settings dto) =
      (dto.next env now current).reread env later := fun later => merged ▸ parse_toJson _
  have remerged : ∀ later, mergeVisitorSettings env later (mergeVisitorSettings env now settings dto) dto =
      .object (assign "visitor" (dto.next env later current).toJson settings.spread) := by
    intro later
    show Json.object (assign "visitor" (dto.next env later (parseCondoVisitorSettings env later _)).toJson (Json.spread _)) = _
    rw [reread, next_again accepted effective, merged]
    exact congrArg Json.object assign_assign
  constructor
  · intro trip
    have read := trip.read now
    rw [reread, reread_next accepted effective, before] at read
    exact ⟨(buffer_taken accepted effective).mp (congrArg VisitorSettings.preRegExpiryBufferMins read),
      (weekdays_taken effective).mp (congrArg VisitorSettings.weekdays read)⟩
  · intro taken
    constructor
    · intro later
      rw [reread, reread_next accepted effective, (buffer_taken accepted effective).mpr taken.buffer,
        (weekdays_taken effective).mpr taken.weekdays, before]
      rfl
    · intro name other
      rw [merged]
      exact lookup_assign_other other
    · rw [remerged, merged]
    · intro later
      rw [remerged, reread]
      exact parse_toJson _

end

namespace Sample

def noHolidays : HolidayEnv := ⟨fun _ _ => []⟩

def buffer (minutes : ℚ) : UpdateVisitorSettingsDto :=
  ⟨none, none, none, none, some minutes, none, none, none, none, none, none, none, none, none, none, none⟩

theorem buffer_accepted {minutes : ℚ} (whole : minutes.den = 1) (least : 0 ≤ minutes) : (buffer minutes).Accepted := by
  constructor
  · rintro _ ⟨⟩
  · rintro _ ⟨⟩
  · rintro _ ⟨⟩
  · rintro _ ⟨⟩
    exact ⟨whole, least⟩
  · rintro _ ⟨⟩
  · rintro _ ⟨⟩
  · rintro _ ⟨⟩

end Sample

theorem buffer_reverted : (Sample.buffer 0).Accepted ∧
    (parseCondoVisitorSettings Sample.noHolidays 0
      (mergeVisitorSettings Sample.noHolidays 0 .null (Sample.buffer 0))).preRegExpiryBufferMins = 120 := by
  refine ⟨Sample.buffer_accepted rfl (le_refl 0), ?_⟩
  unfold mergeVisitorSettings
  rw [parse_toJson]
  rfl

theorem settings_round_trip_buffer : RoundTrip Sample.noHolidays 0 .null (Sample.buffer 30) ↔ (Sample.buffer 30).Taken :=
  settings_round_trip (Sample.buffer_accepted rfl (by norm_num))

end SmartResidence.Settings
