import SmartResidence.Proof.LazyExpiry
import SmartResidence.Proof.PassTexts

/-!
# What a pass leads to

An id is looked up in all condos, a payload in the condo it names and whatever its code is, a stored text in all condos.
-/

namespace SmartResidence.Visitors

open Foundation Billing List

structure PassTable (Row : Type) where
  id : Row → Id
  condoId : Row → Id
  accessCode : Row → Option String
  qrPayload : Row → Option String
  qrCode : Row → Option String

def visitorPasses : PassTable Visitor :=
  ⟨Visitor.id, Visitor.condoId, Visitor.accessCode, Visitor.qrPayload, Visitor.qrCode⟩

def recurringPasses : PassTable RecurringPass :=
  ⟨RecurringPass.id, RecurringPass.condoId, RecurringPass.accessCode, RecurringPass.qrPayload, RecurringPass.qrCode⟩

namespace PassTable

variable {Row : Type} (table : PassTable Row) (env : VisitorEnv) (rows : List Row) (condoId : Id) (normalized : String)

structure Unique : Prop where
  ids : (rows.map table.id).Nodup
  qrPayloads : ∀ row ∈ rows, ∀ other ∈ rows, ∀ text, table.qrPayload row = some text →
    table.qrPayload other = some text → row = other
  qrCodes : ∀ row ∈ rows, ∀ other ∈ rows, ∀ text, table.qrCode row = some text → table.qrCode other = some text →
    row = other
  accessCodes : ∀ row ∈ rows, ∀ other ∈ rows, ∀ code, table.accessCode row = some code →
    table.accessCode other = some code → table.condoId row = table.condoId other → row = other

def Identifies (row : Row) : Prop :=
  normalized = env.uuid (table.id row) ∨ table.accessCode row = some normalized ∨
    table.qrPayload row = some normalized ∨ table.qrCode row = some normalized

def Owns (row : Row) : Prop := table.condoId row = condoId ∧ table.Identifies env normalized row

def NamedById (row : Row) : Prop := isVisitorId normalized = true ∧ env.parseUuid normalized = some (table.id row)

def NamedByPayload (row : Row) : Prop := ∃ payload, parseQrPayload env normalized = some payload ∧
  env.parseUuid payload.visitorId = some (table.id row) ∧ env.parseUuid payload.condoId = some (table.condoId row)

def MissedById : Prop := isVisitorId normalized = true →
  ∃ wanted, env.parseUuid normalized = some wanted ∧ ∀ row ∈ rows, table.id row ≠ wanted

def MissedByPayload : Prop := ∀ payload, parseQrPayload env normalized = some payload →
  ∃ wanted condo, env.parseUuid payload.visitorId = some wanted ∧ env.parseUuid payload.condoId = some condo ∧
    ∀ row ∈ rows, ¬ (table.id row = wanted ∧ table.condoId row = condo)

/-- Of the rows that may be returned, those that the pass leads to are the condo's, and a pass in three parts is one of
the row's own texts. -/
structure Bound (live stored : Row → Prop) : Prop where
  byId : ∀ row ∈ rows, live row → table.NamedById env normalized row → table.condoId row = condoId
  byPayload : ∀ row ∈ rows, live row → table.MissedById env rows normalized → table.NamedByPayload env normalized row →
    table.Owns env condoId normalized row
  byText : ∀ row ∈ rows, live row → table.MissedById env rows normalized → table.MissedByPayload env rows normalized →
    stored row → table.condoId row = condoId

end PassTable

structure ReadsUuids (env : VisitorEnv) : Prop where
  reads : ∀ text id, isVisitorId text = true → env.parseUuid text = some id →
    env.uuid id = .ofList ((trim text.toList).map Char.toLower)

section

variable {Row : Type} {table : PassTable Row} {env : VisitorEnv} {rows : List Row} {condoId : Id}
  {normalized pass : String} {row : Row}

theorem find?_eq_some_of_unique {pick : Row → Bool}
    (unique : ∀ row ∈ rows, ∀ other ∈ rows, pick row = true → pick other = true → row = other) :
    rows.find? pick = some row ↔ row ∈ rows ∧ pick row = true := by
  constructor
  · exact fun found => ⟨mem_of_find?_eq_some found, List.find?_some found⟩
  · rintro ⟨mem, here⟩
    obtain ⟨other, found⟩ := Option.isSome_iff_exists.mp (List.find?_isSome.mpr ⟨row, mem, here⟩)
    rw [found, unique row mem other (mem_of_find?_eq_some found) here (List.find?_some found)]

theorem requireUuid_eq_ok {text : String} {id : Id} : requireUuid env text = .ok id ↔ env.parseUuid text = some id :=
  orThrow_eq_ok

theorem findById_some (unique : table.Unique rows) :
    findById env table.id rows normalized = .ok (some row) ↔ row ∈ rows ∧ table.NamedById env normalized row := by
  unfold findById PassTable.NamedById
  by_cases uuid : isVisitorId normalized = true
  · rw [if_pos uuid]
    simp only [bind_eq_ok, pure_eq_ok, requireUuid_eq_ok, uuid, true_and]
    constructor
    · rintro ⟨wanted, read, found⟩
      obtain ⟨mem, rfl⟩ := mem_of_findBy found
      exact ⟨mem, read⟩
    · rintro ⟨mem, read⟩
      exact ⟨_, read, findBy_of_mem unique.ids mem⟩
  · simp [uuid]

theorem findById_none : findById env table.id rows normalized = .ok none ↔ table.MissedById env rows normalized := by
  unfold findById PassTable.MissedById
  by_cases uuid : isVisitorId normalized = true
  · rw [if_pos uuid]
    simp only [bind_eq_ok, pure_eq_ok, requireUuid_eq_ok, uuid, true_implies, findBy_eq_none]
  · simp [uuid]

theorem findByPayload_some (unique : table.Unique rows) :
    findByPayload env table.id table.condoId rows normalized = .ok (some row) ↔
      row ∈ rows ∧ table.NamedByPayload env normalized row := by
  have same : ∀ wanted condo, ∀ row ∈ rows, ∀ other ∈ rows,
      decide (table.id row = wanted ∧ table.condoId row = condo) = true →
      decide (table.id other = wanted ∧ table.condoId other = condo) = true → row = other := by
    intro wanted condo row mem other listed here there
    exact eq_of_key_eq unique.ids mem listed ((of_decide_eq_true here).1.trans (of_decide_eq_true there).1.symm)
  unfold findByPayload PassTable.NamedByPayload
  cases parseQrPayload env normalized with
  | none => simp
  | some payload =>
    simp only [bind_eq_ok, pure_eq_ok, requireUuid_eq_ok, Option.some.injEq, exists_eq_left',
      find?_eq_some_of_unique (same _ _), decide_eq_true_eq]
    constructor
    · rintro ⟨wanted, id, condo, inside, mem, rfl, rfl⟩
      exact ⟨mem, id, inside⟩
    · rintro ⟨mem, id, inside⟩
      exact ⟨_, id, _, inside, mem, rfl, rfl⟩

theorem findByPayload_none :
    findByPayload env table.id table.condoId rows normalized = .ok none ↔ table.MissedByPayload env rows normalized := by
  unfold findByPayload PassTable.MissedByPayload
  cases parseQrPayload env normalized with
  | none => simp
  | some payload =>
    simp only [bind_eq_ok, pure_eq_ok, requireUuid_eq_ok, Option.some.injEq, forall_eq', List.find?_eq_none,
      decide_eq_true_eq]
    constructor
    · rintro ⟨wanted, id, condo, mem, none⟩
      exact ⟨wanted, condo, id, mem, none⟩
    · rintro ⟨wanted, condo, id, mem, none⟩
      exact ⟨wanted, id, condo, mem, none⟩

theorem identifies_of_named (reads : ReadsUuids env) (named : table.NamedById env (normalizePassInput pass) row) :
    table.Identifies env (normalizePassInput pass) row := by
  have text := reads.reads _ _ named.1 named.2
  exact .inl ((normalized_uuid named.1).symm.trans text.symm)

def chain (first second : Result (Option Row)) (third : Option Row) : Result (Option Row) := do
  match ← first with
  | some row => return some row
  | none =>
      match ← second with
      | some row => return some row
      | none => return third

variable {scope : Option Id}

theorem lookupVisitor_chain {db : VisitorDb} :
    lookupVisitor env db scope normalized = chain (findById env Visitor.id db.visitors normalized)
      (findByPayload env Visitor.id Visitor.condoId db.visitors normalized) (visitorByStored db scope normalized) := by
  unfold lookupVisitor
  cases findById env Visitor.id db.visitors normalized with
  | error failure => rfl
  | ok found =>
    cases found with
    | some visitor => rfl
    | none =>
      cases findByPayload env Visitor.id Visitor.condoId db.visitors normalized with
      | error failure => rfl
      | ok found => cases found <;> rfl

theorem lookupRecurring_chain {db : VisitorDb} :
    lookupRecurring env db scope normalized = chain (findById env RecurringPass.id db.recurringPasses normalized)
      (findByPayload env RecurringPass.id RecurringPass.condoId db.recurringPasses normalized)
      (recurringByStored db scope normalized) := by
  unfold lookupRecurring
  cases findById env RecurringPass.id db.recurringPasses normalized with
  | error failure => rfl
  | ok found =>
    cases found with
    | some row => rfl
    | none =>
      cases findByPayload env RecurringPass.id RecurringPass.condoId db.recurringPasses normalized with
      | error failure => rfl
      | ok found => cases found <;> rfl

variable {third : Option Row}

theorem chain_ok {first second : Result (Option Row)} : chain first second third = .ok (some row) ↔
    first = .ok (some row) ∨ first = .ok none ∧ (second = .ok (some row) ∨ second = .ok none ∧ third = some row) := by
  cases first with
  | error failure => exact ⟨fun never => (nomatch never), by simp⟩
  | ok found =>
    cases found with
    | some other =>
      show Except.ok (some other) = _ ↔ _
      simp
    | none =>
      cases second with
      | error failure => exact ⟨fun never => (nomatch never), by simp⟩
      | ok next =>
        cases next with
        | some other =>
          show Except.ok (some other) = _ ↔ _
          simp
        | none =>
          show Except.ok third = _ ↔ _
          simp

theorem chain_some (unique : table.Unique rows) {stored : Prop} (last : third = some row ↔ row ∈ rows ∧ stored) :
    chain (findById env table.id rows normalized) (findByPayload env table.id table.condoId rows normalized) third =
        .ok (some row) ↔
      row ∈ rows ∧ (table.NamedById env normalized row ∨ table.MissedById env rows normalized ∧
        (table.NamedByPayload env normalized row ∨ table.MissedByPayload env rows normalized ∧ stored)) := by
  rw [chain_ok, findById_some unique, findById_none, findByPayload_some unique, findByPayload_none, last]
  constructor
  · rintro (⟨mem, named⟩ | ⟨missed, ⟨mem, named⟩ | ⟨without, mem, text⟩⟩)
    · exact ⟨mem, .inl named⟩
    · exact ⟨mem, .inr ⟨missed, .inl named⟩⟩
    · exact ⟨mem, .inr ⟨missed, .inr ⟨without, text⟩⟩⟩
  · rintro ⟨mem, named | ⟨missed, named | ⟨without, text⟩⟩⟩
    · exact .inl ⟨mem, named⟩
    · exact .inr ⟨missed, .inl ⟨mem, named⟩⟩
    · exact .inr ⟨missed, .inr ⟨without, mem, text⟩⟩

theorem payload_or_code_some (unique : table.Unique rows) :
    ((rows.find? fun row => decide (table.qrPayload row = some normalized)).or
        (rows.find? fun row => decide (table.accessCode row = some normalized ∧ table.condoId row = condoId))) = some row ↔
      row ∈ rows ∧ (table.qrPayload row = some normalized ∨ (∀ other ∈ rows, table.qrPayload other ≠ some normalized) ∧
        table.accessCode row = some normalized ∧ table.condoId row = condoId) := by
  have payloads : ∀ row ∈ rows, ∀ other ∈ rows, decide (table.qrPayload row = some normalized) = true →
      decide (table.qrPayload other = some normalized) = true → row = other := fun row mem other listed here there =>
    unique.qrPayloads row mem other listed _ (of_decide_eq_true here) (of_decide_eq_true there)
  have access : ∀ row ∈ rows, ∀ other ∈ rows,
      decide (table.accessCode row = some normalized ∧ table.condoId row = condoId) = true →
      decide (table.accessCode other = some normalized ∧ table.condoId other = condoId) = true → row = other := by
    intro row mem other listed here there
    have one := of_decide_eq_true here
    have two := of_decide_eq_true there
    exact unique.accessCodes row mem other listed _ one.1 two.1 (one.2.trans two.2.symm)
  simp only [Option.or_eq_some_iff, find?_eq_some_of_unique payloads, find?_eq_some_of_unique access, List.find?_eq_none,
    decide_eq_true_eq]
  constructor
  · rintro (⟨mem, payload⟩ | ⟨none, mem, code, own⟩)
    · exact ⟨mem, .inl payload⟩
    · exact ⟨mem, .inr ⟨none, code, own⟩⟩
  · rintro ⟨mem, payload | ⟨none, code, own⟩⟩
    · exact .inl ⟨mem, payload⟩
    · exact .inr ⟨none, mem, code, own⟩

end

/-! ## Visitors -/

section

variable {env : VisitorEnv} {now : Instant} {db after : VisitorDb} {condoId : Id} {pass normalized : String}
  {visitor : Visitor} {guard : GateUser}

def storedText (db : VisitorDb) (normalized : String) (visitor : Visitor) : Prop :=
  visitor.qrPayload = some normalized ∨
    (∀ other ∈ db.visitors, other.qrPayload ≠ some normalized) ∧ visitor.qrCode = some normalized

theorem visitorByStored_some (unique : visitorPasses.Unique db.visitors) :
    visitorByStored db (some condoId) normalized = some visitor ↔ visitor ∈ db.visitors ∧
      (storedText db normalized visitor ∨ (∀ other ∈ db.visitors, ¬ storedText db normalized other) ∧
        visitor.accessCode = some normalized ∧ visitor.condoId = condoId) := by
  have payloads : ∀ row ∈ db.visitors, ∀ other ∈ db.visitors, decide (row.qrPayload = some normalized) = true →
      decide (other.qrPayload = some normalized) = true → row = other := fun row mem other listed here there =>
    unique.qrPayloads row mem other listed _ (of_decide_eq_true here) (of_decide_eq_true there)
  have codes : ∀ row ∈ db.visitors, ∀ other ∈ db.visitors, decide (row.qrCode = some normalized) = true →
      decide (other.qrCode = some normalized) = true → row = other := fun row mem other listed here there =>
    unique.qrCodes row mem other listed _ (of_decide_eq_true here) (of_decide_eq_true there)
  have access : ∀ row ∈ db.visitors, ∀ other ∈ db.visitors,
      (decide (row.accessCode = some normalized) && decide (row.condoId = condoId)) = true →
      (decide (other.accessCode = some normalized) && decide (other.condoId = condoId)) = true → row = other := by
    intro row mem other listed here there
    simp only [Bool.and_eq_true, decide_eq_true_eq] at here there
    exact unique.accessCodes row mem other listed _ here.1 there.1 (here.2.trans there.2.symm)
  unfold visitorByStored
  simp only [Option.or_eq_some_iff, Option.or_eq_none_iff, Option.all_some, find?_eq_some_of_unique payloads,
    find?_eq_some_of_unique codes, find?_eq_some_of_unique access, List.find?_eq_none, decide_eq_true_eq,
    Bool.and_eq_true]
  constructor
  · rintro ((⟨mem, payload⟩ | ⟨none, mem, code⟩) | ⟨⟨none, without⟩, mem, code, own⟩)
    · exact ⟨mem, .inl (.inl payload)⟩
    · exact ⟨mem, .inl (.inr ⟨none, code⟩)⟩
    · refine ⟨mem, .inr ⟨fun other listed texts => ?_, code, own⟩⟩
      exact texts.elim (none other listed) fun texts => without other listed texts.2
  · rintro ⟨mem, (payload | ⟨none, code⟩) | ⟨none, code, own⟩⟩
    · exact .inl (.inl ⟨mem, payload⟩)
    · exact .inl (.inr ⟨none, mem, code⟩)
    · have payload : ∀ other ∈ db.visitors, ¬ other.qrPayload = some normalized :=
        fun other listed here => none other listed (.inl here)
      exact .inr ⟨⟨payload, fun other listed here => none other listed (.inr ⟨payload, here⟩)⟩, mem, code, own⟩

theorem lookupVisitor_some (unique : visitorPasses.Unique db.visitors) :
    lookupVisitor env db (some condoId) normalized = .ok (some visitor) ↔ visitor ∈ db.visitors ∧
      (visitorPasses.NamedById env normalized visitor ∨ visitorPasses.MissedById env db.visitors normalized ∧
        (visitorPasses.NamedByPayload env normalized visitor ∨
          visitorPasses.MissedByPayload env db.visitors normalized ∧ (storedText db normalized visitor ∨
            (∀ other ∈ db.visitors, ¬ storedText db normalized other) ∧ visitor.accessCode = some normalized ∧
              visitor.condoId = condoId))) := by
  rw [lookupVisitor_chain]
  exact chain_some unique (visitorByStored_some unique)

def Visitor.shown (condoId : Id) (now : Instant) (visitor : Visitor) : Prop :=
  visitor.status ≠ .cancelled ∧ visitor.status ≠ .expired ∧ ¬ visitor.early now ∧
    ¬ (visitor.condoId = condoId ∧ visitor.lapsed now = true)

theorem verify_returns : verifyByPass env now pass (some condoId) db = (.ok visitor, after) ↔
    after = expireStale (some condoId) now db ∧
      lookupVisitor env db (some condoId) (normalizePassInput pass) = .ok (some visitor) ∧ visitor.shown condoId now := by
  rw [verify_ok]
  refine and_congr_right fun same => ?_
  rw [same, lookup_swept, map_eq_ok]
  simp only [Option.map_eq_some_iff]
  constructor
  · rintro ⟨⟨_, found, row, rfl, rfl⟩, live, fresh, ready⟩
    have kept : swept (some condoId) now row = row := by
      rcases swept_cases (some condoId) now row with kept | ⟨gone, -, -⟩
      · exact kept
      · exact absurd (congrArg Visitor.status gone) fresh
    rw [kept] at live fresh ready ⊢
    refine ⟨found, live, fresh, ready, fun ⟨own, lapsed⟩ => fresh ?_⟩
    have gone : swept (some condoId) now row = row.expire := if_pos (by simp [inScope, own, lapsed])
    exact congrArg Visitor.status (kept.symm.trans gone)
  · rintro ⟨found, live, fresh, ready, current⟩
    have kept : swept (some condoId) now visitor = visitor := by
      refine if_neg fun lapsed => current ?_
      obtain ⟨within, lapsed⟩ := Bool.and_eq_true_iff.mp lapsed
      exact ⟨of_decide_eq_true within, lapsed⟩
    exact ⟨⟨_, found, visitor, rfl, kept⟩, live, fresh, ready⟩

def Verified (env : VisitorEnv) (now : Instant) (db : VisitorDb) (condoId : Id) (pass : String) : Prop :=
  ∀ visitor after, verifyByPass env now pass (some condoId) db = (.ok visitor, after) →
    visitorPasses.Owns env condoId (normalizePassInput pass) visitor

theorem verified_iff (reads : ReadsUuids env) (unique : visitorPasses.Unique db.visitors) :
    Verified env now db condoId pass ↔ visitorPasses.Bound env db.visitors condoId (normalizePassInput pass)
      (Visitor.shown condoId now) (storedText db (normalizePassInput pass)) := by
  unfold Verified
  simp only [verify_returns, lookupVisitor_some unique]
  constructor
  · intro owns
    refine ⟨fun visitor mem shown named => ?_, fun visitor mem shown missed named => ?_,
      fun visitor mem shown missed without text => ?_⟩
    · exact (owns visitor _ ⟨rfl, ⟨mem, .inl named⟩, shown⟩).1
    · exact owns visitor _ ⟨rfl, ⟨mem, .inr ⟨missed, .inl named⟩⟩, shown⟩
    · exact (owns visitor _ ⟨rfl, ⟨mem, .inr ⟨missed, .inr ⟨without, .inl text⟩⟩⟩, shown⟩).1
  · rintro bound visitor _ ⟨rfl, ⟨mem, named | ⟨missed, named | ⟨without, text | ⟨none, code, own⟩⟩⟩⟩, shown⟩
    · exact ⟨bound.byId visitor mem shown named, identifies_of_named reads named⟩
    · exact bound.byPayload visitor mem shown missed named
    · refine ⟨bound.byText visitor mem shown missed without text, ?_⟩
      exact text.elim (fun payload => .inr (.inr (.inl payload))) fun code => .inr (.inr (.inr code.2))
    · exact ⟨own, .inr (.inl code)⟩

/-! ## What the gate changes -/

def Elsewhere (condoId : Id) (db after : VisitorDb) : Prop :=
  (after.visitors.filter fun visitor => decide (visitor.condoId ≠ condoId)) =
    db.visitors.filter fun visitor => decide (visitor.condoId ≠ condoId)

theorem elsewhere_update {pick : Visitor → Bool} {change : Visitor → Visitor}
    (own : ∀ visitor ∈ db.visitors, pick visitor = true → visitor.condoId = condoId)
    (kept : ∀ visitor, (change visitor).condoId = visitor.condoId) :
    Elsewhere condoId db { db with visitors := updateWhere pick change db.visitors } := by
  unfold Elsewhere updateWhere
  rw [filter_map]
  have same : (fun visitor : Visitor => decide (visitor.condoId ≠ condoId)) ∘
      (fun visitor => if pick visitor then change visitor else visitor) =
      fun visitor => decide (visitor.condoId ≠ condoId) := by
    funext visitor
    by_cases picked : pick visitor = true <;> simp [picked, kept]
  rw [same]
  refine (map_congr_left fun visitor mem => ?_).trans (map_id' _)
  obtain ⟨mem, other⟩ := mem_filter.mp mem
  exact if_neg fun picked => of_decide_eq_true other (own visitor mem picked)

theorem elsewhere_expireStale : Elsewhere condoId db (expireStale (some condoId) now db) := by
  have within : ∀ {visitor : Visitor} {lapsed : Bool}, (inScope (some condoId) visitor && lapsed) = true →
      visitor.condoId = condoId := fun pick => of_decide_eq_true (Bool.and_eq_true_iff.mp pick).1
  have first : Elsewhere condoId db (expireApprovals (some condoId) now db) :=
    elsewhere_update (fun _ _ pick => within pick) fun _ => rfl
  have second : Elsewhere condoId (expireApprovals (some condoId) now db) (expireStale (some condoId) now db) :=
    elsewhere_update (fun _ _ pick => within pick) fun _ => rfl
  exact second.trans first

theorem elsewhere_run {ending : Ending} {visitorId : Id}
    (own : ∀ visitor ∈ db.visitors, visitor.id = visitorId → visitor.condoId = condoId) :
    Elsewhere condoId db (ending.run env visitorId db).2 := by
  have updates : ∀ {change : Visitor → Visitor}, (∀ visitor, (change visitor).condoId = visitor.condoId) →
      Elsewhere condoId db (db.updateVisitor visitorId change) := fun kept =>
    elsewhere_update (fun visitor mem pick => own visitor mem (of_decide_eq_true pick)) kept
  unfold Ending.run
  cases commits : ending.commit env db visitorId with
  | error failure => rfl
  | ok written =>
    cases ending with
    | update decision =>
      simp only [Ending.commit, bind_eq_ok, pure_eq_ok] at commits
      obtain ⟨_, _, _, _, rfl⟩ := commits
      exact updates fun visitor => by cases decision <;> rfl
    | expire message =>
      simp only [Ending.commit, bind_eq_ok, pure_eq_ok] at commits
      obtain ⟨_, _, rfl⟩ := commits
      exact updates fun _ => rfl
    | letIn guardId now approves =>
      simp only [Ending.commit, bind_eq_ok, pure_eq_ok] at commits
      obtain ⟨_, _, rfl⟩ := commits
      exact updates fun _ => rfl

variable {Value : Type}

theorem elsewhere_bind {first : VisitorCall Value} {rest : Value → VisitorCall Unit}
    (start : Elsewhere condoId db (first db).2)
    (others : ∀ value middle, first db = (.ok value, middle) → Elsewhere condoId middle (rest value middle).2) :
    Elsewhere condoId db ((first >>= rest) db).2 := by
  rcases result : first db with ⟨failure | value, middle⟩
  · rw [Call.bind_of_error result]
    rwa [result] at start
  · rw [Call.bind_of_ok result]
    rw [result] at start
    exact (others value middle result).trans start

theorem elsewhere_ofResult_bind {result : Result Value} {rest : Value → VisitorCall Unit}
    (others : ∀ value, result = .ok value → Elsewhere condoId db (rest value db).2) :
    Elsewhere condoId db ((Call.ofResult result >>= rest) db).2 := by
  cases result with
  | error failure => rfl
  | ok value => exact others value rfl

theorem elsewhere_verify {rest : Visitor → VisitorCall Unit}
    (others : ∀ visitor, verifyByPass env now pass (some condoId) db = (.ok visitor, expireStale (some condoId) now db) →
      Elsewhere condoId (expireStale (some condoId) now db) (rest visitor (expireStale (some condoId) now db)).2) :
    Elsewhere condoId db ((verifyByPass env now pass (some condoId) >>= rest) db).2 := by
  refine elsewhere_bind (verify_writes ▸ elsewhere_expireStale) fun visitor middle verified => ?_
  obtain rfl := (verify_ok.mp verified).1
  exact others visitor verified

theorem elsewhere_closing {closing : Closing}
    (own : ∀ visitor ∈ db.visitors, visitor.id = closing.visitorId → visitor.condoId = condoId) :
    Elsewhere condoId db (closing.run env db).2 := by
  have kept : ∀ {after}, closing.closeRecord db = .ok after → after.visitors = db.visitors := by
    intro after closes
    simp only [Closing.closeRecord, bind_eq_ok, pure_eq_ok] at closes
    obtain ⟨_, _, rfl⟩ := closes
    rfl
  cases closes : closing.closeRecord db with
  | error failure =>
    have stops : closing.run env db = (.error failure, db) := Call.bind_of_error (by simp only [closes])
    rw [stops]
    rfl
  | ok after =>
    have goes : closing.run env db = (Ending.update .checkOut).run env closing.visitorId after :=
      Call.bind_of_ok (by rw [closes])
    rw [goes]
    have rest : Elsewhere condoId after ((Ending.update .checkOut).run env closing.visitorId after).2 :=
      elsewhere_run (kept closes ▸ own)
    unfold Elsewhere at rest ⊢
    rw [rest, kept closes]

theorem own_of_verified (ids : (db.visitors.map Visitor.id).Nodup)
    (verified : verifyByPass env now pass (some condoId) db = (.ok visitor, after)) (own : visitor.condoId = condoId) :
    ∀ other ∈ after.visitors, other.id = visitor.id → other.condoId = condoId := by
  obtain ⟨rfl, found, -⟩ := verify_returns.mp verified
  intro other mem same
  rw [expireStale_eq] at mem
  obtain ⟨old, listed, rfl⟩ := mem_map.mp mem
  rw [swept_id] at same
  rw [swept_condoId, eq_of_key_eq ids listed (mem_of_lookup found) same, own]

theorem checkIn_elsewhere (ids : (db.visitors.map Visitor.id).Nodup) (active : guard.activeCondoId = some condoId) :
    Elsewhere condoId db (checkIn env now pass guard db).2 := by
  refine elsewhere_ofResult_bind fun _ _ => elsewhere_ofResult_bind fun pick theirs => ?_
  obtain rfl := Option.some.inj (active.symm.trans (orThrow_eq_ok.mp theirs))
  refine elsewhere_verify fun visitor verified => elsewhere_ofResult_bind fun ending checked => ?_
  exact elsewhere_run (own_of_verified ids verified (checkInChecks_eq_ok.mp checked).1)

theorem checkOut_elsewhere (ids : (db.visitors.map Visitor.id).Nodup) (active : guard.activeCondoId = some condoId)
    (verified : Verified env now db condoId pass) : Elsewhere condoId db (checkOut env now pass guard db).2 := by
  refine elsewhere_ofResult_bind fun _ _ => elsewhere_ofResult_bind fun pick theirs => ?_
  obtain rfl := Option.some.inj (active.symm.trans (orThrow_eq_ok.mp theirs))
  refine elsewhere_bind rfl fun byId middle read => ?_
  obtain ⟨-, rfl⟩ := Prod.mk.inj read
  refine elsewhere_ofResult_bind fun byId _ => elsewhere_ofResult_bind fun _ _ => ?_
  refine elsewhere_verify fun visitor found => elsewhere_ofResult_bind fun _ _ => ?_
  refine elsewhere_bind rfl fun last middle read => ?_
  cases read
  refine elsewhere_ofResult_bind fun record _ => ?_
  have own := own_of_verified ids found (verified visitor _ found).1
  exact elsewhere_closing own

end

/-! ## Recurring passes -/

section

variable {env : VisitorEnv} {db : VisitorDb} {condoId : Id} {pass normalized : String} {row : RecurringPass}

theorem recurringByStored_some (unique : recurringPasses.Unique db.recurringPasses) :
    recurringByStored db (some condoId) normalized = some row ↔ row ∈ db.recurringPasses ∧
      (row.qrPayload = some normalized ∨ (∀ other ∈ db.recurringPasses, other.qrPayload ≠ some normalized) ∧
        row.accessCode = some normalized ∧ row.condoId = condoId) := by
  have own : (fun row : RecurringPass => decide (row.accessCode = some normalized) && (some condoId).all fun id =>
      decide (row.condoId = id)) = fun row => decide (row.accessCode = some normalized ∧ row.condoId = condoId) := by
    funext row
    rw [Option.all_some, Bool.decide_and]
  unfold recurringByStored
  rw [own]
  exact payload_or_code_some unique

def Resolved (env : VisitorEnv) (db : VisitorDb) (condoId : Id) (pass : String) : Prop :=
  ∀ row, resolvePass env db pass (some condoId) = .ok row →
    recurringPasses.Owns env condoId (normalizePassInput pass) row

theorem resolved_iff (reads : ReadsUuids env) (unique : recurringPasses.Unique db.recurringPasses) :
    Resolved env db condoId pass ↔ recurringPasses.Bound env db.recurringPasses condoId (normalizePassInput pass)
      (fun _ => True) fun row => row.qrPayload = some (normalizePassInput pass) := by
  have found : ∀ row, resolvePass env db pass (some condoId) = .ok row ↔ _ := fun row => by
    simp only [resolvePass, bind_eq_ok, orThrow_eq_ok, exists_eq_right, lookupRecurring_chain]
    exact chain_some unique (recurringByStored_some unique)
  unfold Resolved
  simp only [found]
  constructor
  · intro owns
    refine ⟨fun row mem _ named => ?_, fun row mem _ missed named => ?_, fun row mem _ missed without text => ?_⟩
    · exact (owns row ⟨mem, .inl named⟩).1
    · exact owns row ⟨mem, .inr ⟨missed, .inl named⟩⟩
    · exact (owns row ⟨mem, .inr ⟨missed, .inr ⟨without, .inl text⟩⟩⟩).1
  · rintro bound row ⟨mem, named | ⟨missed, named | ⟨without, text | ⟨none, code, own⟩⟩⟩⟩
    · exact ⟨bound.byId row mem trivial named, identifies_of_named reads named⟩
    · exact bound.byPayload row mem trivial missed named
    · exact ⟨bound.byText row mem trivial missed without text, .inr (.inr (.inl text))⟩
    · exact ⟨own, .inr (.inl code)⟩

end

def StaysHome (env : VisitorEnv) (now : Instant) (db : VisitorDb) (condoId : Id) (pass : String) : Prop :=
  ∀ guard : GateUser, guard.activeCondoId = some condoId →
    Elsewhere condoId db (checkIn env now pass guard db).2 ∧ Elsewhere condoId db (checkOut env now pass guard db).2

/-- A pass leads to its own visit, and only there, exactly when none of the lookups that do not ask for the condo or the
code finds another one. -/
theorem pass_identity {env : VisitorEnv} {now : Instant} {db : VisitorDb} {condoId : Id} {pass : String}
    (reads : ReadsUuids env) (visits : visitorPasses.Unique db.visitors)
    (recurring : recurringPasses.Unique db.recurringPasses) :
    Verified env now db condoId pass ∧ StaysHome env now db condoId pass ∧ Resolved env db condoId pass ↔
      visitorPasses.Bound env db.visitors condoId (normalizePassInput pass) (Visitor.shown condoId now)
        (storedText db (normalizePassInput pass)) ∧
      recurringPasses.Bound env db.recurringPasses condoId (normalizePassInput pass) (fun _ => True)
        fun row => row.qrPayload = some (normalizePassInput pass) := by
  rw [← verified_iff reads visits, ← resolved_iff reads recurring]
  constructor
  · exact fun ⟨verified, _, resolved⟩ => ⟨verified, resolved⟩
  · rintro ⟨verified, resolved⟩
    refine ⟨verified, fun guard active => ⟨?_, ?_⟩, resolved⟩
    · exact checkIn_elsewhere visits.ids active
    · exact checkOut_elsewhere visits.ids active verified

namespace Sample

def passEnv : VisitorEnv :=
  { env with
    parseUuid := fun text => (List.range 100).find? fun id =>
      decide (env.uuid id = .ofList ((trim text.toList).map Char.toLower)) }

theorem readsUuids : ReadsUuids passEnv := by
  refine ⟨fun text id _ read => ?_⟩
  simp only [passEnv] at read
  have same := List.find?_some read
  exact of_decide_eq_true same

def forged : String := buildQrPayload (env.uuid 1) (env.uuid 10) "ZZZZZZ"

end Sample

theorem pass_identity_forged : ∃ db,
    createDeliveryPass Sample.passEnv 0 "ABCDEF" Sample.start.db Sample.owner Sample.rider = .ok db ∧
      ¬ Verified Sample.passEnv 1 db 2 Sample.forged := by
  have shown : (createDeliveryPass Sample.passEnv 0 "ABCDEF" Sample.start.db Sample.owner Sample.rider).map (fun db =>
      (verifyByPass Sample.passEnv 1 Sample.forged (some 2) db).1.map Visitor.condoId) = .ok (.ok 1) := by
    decide +kernel
  obtain ⟨db, created, verified⟩ := map_eq_ok.mp shown
  obtain ⟨visitor, found, condo⟩ := map_eq_ok.mp verified
  refine ⟨db, created, fun owns => ?_⟩
  have own := (owns visitor _ (Prod.ext found rfl)).1
  exact absurd (condo.symm.trans own) (by decide)

theorem pass_identity_code : ∃ db,
    createDeliveryPass Sample.passEnv 0 "ABCDEF" Sample.start.db Sample.owner Sample.rider = .ok db ∧
      Verified Sample.passEnv 1 db 1 "abcdef" ∧ StaysHome Sample.passEnv 1 db 1 "abcdef" ∧
      Resolved Sample.passEnv db 1 "abcdef" := by
  have registered : (createDeliveryPass Sample.passEnv 0 "ABCDEF" Sample.start.db Sample.owner Sample.rider).map
      (fun db => (db.recurringPasses, db.visitors.map fun v => (decide (v.qrPayload = some "ABCDEF"),
        decide (v.qrCode = some "ABCDEF")))) = .ok ([], [(false, false)]) := by
    decide +kernel
  obtain ⟨db, created, rows⟩ := map_eq_ok.mp registered
  obtain ⟨passes, rows⟩ := Prod.mk.inj rows
  obtain ⟨visitor, single, texts⟩ := List.map_eq_singleton_iff.mp rows
  simp only [Prod.mk.injEq, decide_eq_false_iff_not] at texts
  have one : ∀ row ∈ db.visitors, ∀ other ∈ db.visitors, row = other := by simp [single]
  have visits : visitorPasses.Unique db.visitors := by
    refine ⟨by simp [single], fun row member other listed _ _ _ => one row member other listed,
      fun row member other listed _ _ _ => one row member other listed,
      fun row member other listed _ _ _ _ => one row member other listed⟩
  have recurring : recurringPasses.Unique db.recurringPasses := by
    rw [passes]
    exact ⟨.nil, fun _ never => (nomatch never), fun _ never => (nomatch never), fun _ never => (nomatch never)⟩
  have code : normalizePassInput "abcdef" = "ABCDEF" := by decide +kernel
  have short : isVisitorId "ABCDEF" = false := by decide +kernel
  have whole : parseQrPayload Sample.passEnv "ABCDEF" = none := by decide +kernel
  have noId : ∀ {Row : Type} {table : PassTable Row} {row : Row}, ¬ table.NamedById Sample.passEnv "ABCDEF" row :=
    fun named => absurd (short.symm.trans named.1) (by decide)
  have noParts : ∀ {Row : Type} {table : PassTable Row} {row : Row},
      ¬ table.NamedByPayload Sample.passEnv "ABCDEF" row := fun ⟨_, parsed, _⟩ => nomatch whole.symm.trans parsed
  refine ⟨db, created, (pass_identity Sample.readsUuids visits recurring).mpr ⟨?_, ?_⟩⟩
  · rw [code]
    refine ⟨fun _ _ _ named => absurd named noId, fun _ _ _ _ named => absurd named noParts,
      fun row member _ _ _ text => ?_⟩
    rw [single] at member
    obtain rfl := List.mem_singleton.mp member
    exact absurd text fun text => text.elim texts.1 fun text => texts.2 text.2
  · rw [code, passes]
    exact ⟨fun _ never => (nomatch never), fun _ never => (nomatch never), fun _ never => (nomatch never)⟩

end SmartResidence.Visitors
