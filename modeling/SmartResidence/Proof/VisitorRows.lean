import SmartResidence.Proof.VisitorLifecycle

/-!
# What a step does to the rows of visitors
-/

namespace SmartResidence.Visitors

open Foundation Billing List

structure SameVisit (old new : Visitor) : Prop where
  id : new.id = old.id
  condoId : new.condoId = old.condoId
  unitId : new.unitId = old.unitId
  overnight : new.overnight = old.overnight
  expectedAt : new.expectedAt = old.expectedAt
  createdAt : new.createdAt = old.createdAt

def InFlight.writes : InFlight → Option (Id × Ending)
  | .ending visitorId write => some (visitorId, write)
  | .closed visit _ => some (visit.visitorId, .update .checkOut)
  | _ => none

def InFlight.inserts : InFlight → Option Visitor
  | .registering draft _ | .counting draft _ _ _ _ _ | .walkingIn _ (.waits draft) | .walkingIn _ (.enters draft) =>
      some draft
  | _ => none

def InFlight.Settled (env : VisitorEnv) (db : VisitorDb) : InFlight → Prop
  | .counting draft _ checkedAt settings snapshot since => outdated env db draft since = false ∧
      ∃ outcome, overnightOutcome env.calendar checkedAt settings snapshot draft.condoId draft.expectedAt = .ok outcome
  | _ => True

inductive RowChange (env : VisitorEnv) (now : Instant) (db : VisitorDb) (call : InFlight) (after : VisitorDb) : Prop
  | keeps (visitors : after.visitors = db.visitors)
  | writes {visitorId : Id} {ending : Ending} (writes : call.writes = some (visitorId, ending))
      (visitors : after.visitors = updateBy Visitor.id visitorId (ending.change env) db.visitors)
  | inserts {draft row : Visitor} (inserts : call.inserts = some draft) (settled : call.Settled env db)
      (new : RowOf draft db.nextId now row) (visitors : after.visitors = db.visitors ++ [row])
      (grows : db.nextId < after.nextId)

structure Surroundings (db after : VisitorDb) : Prop where
  condos : after.condos = db.condos
  units : after.units = db.units
  grows : db.nextId ≤ after.nextId

def InFlight.Day : InFlight → Prop
  | .registering draft _ | .walkingIn _ (.waits draft) | .walkingIn _ (.enters draft) => draft.overnight = false
  | _ => True

def InFlight.Begun (env : VisitorEnv) (now : Instant) (db : VisitorDb) : InFlight → Prop
  | .registering draft _ | .walkingIn _ (.waits draft) | .walkingIn _ (.enters draft) => draft.overnight = false
  | .staying draft _ _ settings => settings = settingsOf env db draft.condoId ∧
      ∃ user dto, createDraft env now db user dto = .ok draft ∧ draft.overnight = true
  | .counting _ _ _ _ _ _ => False
  | _ => True

def InFlight.Plain : InFlight → Prop
  | .ending _ _ | .leaving _ _ | .closing _ _ | .closed _ _ => True
  | _ => False

section

variable {env : VisitorEnv} {now : Instant} {db after : VisitorDb} {call : InFlight} {rest more : List InFlight}
  {visitor : Visitor} {ending : Ending} {visitorId : Id}

theorem Ending.sameVisit : SameVisit visitor (ending.change env visitor) := by
  cases ending with
  | update decision => cases decision <;> exact ⟨rfl, rfl, rfl, rfl, rfl, rfl⟩
  | expire message => exact ⟨rfl, rfl, rfl, rfl, rfl, rfl⟩
  | letIn guardId now approves => exact ⟨rfl, rfl, rfl, rfl, rfl, rfl⟩

theorem commit_rows (commits : ending.commit env db visitorId = .ok after) :
    after.visitors = updateBy Visitor.id visitorId (ending.change env) db.visitors ∧ Surroundings db after := by
  obtain ⟨-, ⟨-, rfl⟩ | ⟨_, _, _, _, rfl⟩⟩ := Ending.commit_ok commits
  · exact ⟨rfl, rfl, rfl, le_rfl⟩
  · exact ⟨rfl, rfl, rfl, Nat.le_succ _⟩

theorem surroundings_rfl : Surroundings db db := ⟨rfl, rfl, le_rfl⟩

theorem surroundings_withVisitor : Surroundings db (db.withVisitor visitor) := ⟨rfl, rfl, Nat.le_succ _⟩

theorem proceed_rows (ids : Allocated (db.visitors.map Visitor.id) db.nextId)
    (proceeds : call.proceed env now db = .ok (after, rest)) :
    RowChange env now db call after ∧ Surroundings db after := by
  cases call with
  | ending visitorId ending =>
    simp only [InFlight.proceed, bind_eq_ok] at proceeds
    obtain ⟨written, commits, rfl, rfl⟩ := proceeds
    obtain ⟨visitors, others⟩ := commit_rows commits
    exact ⟨.writes rfl visitors, others⟩
  | registering draft accessCode =>
    simp only [InFlight.proceed, bind_eq_ok] at proceeds
    obtain ⟨_, _, written, inserts, rfl, rfl⟩ := proceeds
    obtain rfl := insertVisitor_ok inserts
    exact ⟨.inserts rfl trivial rowOf_inserted rfl (Nat.lt_succ_self _), surroundings_withVisitor⟩
  | staying draft accessCode checkedAt settings =>
    cases proceeds
    exact ⟨.keeps rfl, surroundings_rfl⟩
  | counting draft accessCode checkedAt settings snapshot since =>
    simp only [InFlight.proceed] at proceeds
    split at proceeds
    · cases proceeds
      exact ⟨.keeps rfl, surroundings_rfl⟩
    · rename_i fresh
      simp only [insertOvernight, bind_eq_ok] at proceeds
      obtain ⟨written, ⟨outcome, resolved, inserts⟩, rfl, rfl⟩ := proceeds
      obtain ⟨row, new, rfl⟩ := insertPass_ok ids inserts
      have settled : InFlight.Settled env db (.counting draft accessCode checkedAt settings snapshot since) :=
        ⟨Bool.eq_false_iff.mpr fresh, outcome, resolved⟩
      exact ⟨.inserts rfl settled new rfl (Nat.lt_succ_self _), surroundings_withVisitor⟩
  | walkingIn guardId walkIn =>
    simp only [InFlight.proceed, bind_eq_ok] at proceeds
    obtain ⟨written, inserts, rfl, rfl⟩ := proceeds
    cases walkIn with
    | waits draft =>
      obtain rfl := insertVisitor_ok inserts
      exact ⟨.inserts rfl trivial rowOf_inserted rfl (Nat.lt_succ_self _), surroundings_withVisitor⟩
    | enters draft =>
      cases inserts
      have later : db.nextId < db.nextId + 1 + 1 := by omega
      exact ⟨.inserts rfl trivial rowOf_inserted rfl later, rfl, rfl, later.le⟩
  | leaving visitorId guardId =>
    simp only [InFlight.proceed, bind_eq_ok] at proceeds
    obtain ⟨record, last, rfl, rfl⟩ := proceeds
    exact ⟨.keeps rfl, surroundings_rfl⟩
  | closing visit visits =>
    simp only [InFlight.proceed, Closing.closeRecord, bind_eq_ok, pure_eq_ok] at proceeds
    obtain ⟨written, ⟨_, _, rfl⟩, rfl, rfl⟩ := proceeds
    exact ⟨.keeps rfl, rfl, rfl, le_rfl⟩
  | closed visit visits =>
    simp only [InFlight.proceed, bind_eq_ok] at proceeds
    obtain ⟨written, commits, rfl, rfl⟩ := proceeds
    obtain ⟨visitors, others⟩ := commit_rows commits
    exact ⟨.writes rfl visitors, others⟩

variable {visits : List Closing}

theorem nextClosing_plain : ∀ call ∈ nextClosing visits, call.Plain := by
  cases visits with
  | nil => exact fun _ mem => nomatch mem
  | cons visit rest =>
    intro call mem
    obtain rfl := mem_singleton.mp mem
    trivial

theorem proceed_rest (proceeds : call.proceed env now db = .ok (after, rest)) : ∀ other ∈ rest, other.Plain ∨
    after = db ∧ ∃ draft accessCode checkedAt settings, call = .staying draft accessCode checkedAt settings ∧
          other = .counting draft accessCode checkedAt settings db.visitors db.nextId ∨
        (∃ snapshot since, call = .counting draft accessCode checkedAt settings snapshot since) ∧
          other = .staying draft accessCode checkedAt settings := by
  have none : ∀ other ∈ ([] : List InFlight), other.Plain := fun _ mem => nomatch mem
  intro other mem
  cases call with
  | staying draft accessCode checkedAt settings =>
    cases proceeds
    obtain rfl := mem_singleton.mp mem
    exact .inr ⟨rfl, draft, accessCode, checkedAt, settings, .inl ⟨rfl, rfl⟩⟩
  | counting draft accessCode checkedAt settings snapshot since =>
    simp only [InFlight.proceed] at proceeds
    split at proceeds
    · cases proceeds
      obtain rfl := mem_singleton.mp mem
      exact .inr ⟨rfl, draft, accessCode, checkedAt, settings, .inr ⟨⟨snapshot, since, rfl⟩, rfl⟩⟩
    · simp only [bind_eq_ok] at proceeds
      obtain ⟨_, _, -, rfl⟩ := proceeds
      exact .inl (none other mem)
  | ending visitorId write =>
    simp only [InFlight.proceed, bind_eq_ok] at proceeds
    obtain ⟨_, _, -, rfl⟩ := proceeds
    exact .inl (none other mem)
  | registering draft accessCode =>
    simp only [InFlight.proceed, bind_eq_ok] at proceeds
    obtain ⟨_, _, _, _, -, rfl⟩ := proceeds
    obtain rfl := mem_singleton.mp mem
    exact .inl trivial
  | walkingIn guardId walkIn =>
    simp only [InFlight.proceed, bind_eq_ok] at proceeds
    obtain ⟨_, _, -, rfl⟩ := proceeds
    exact .inl (none other mem)
  | leaving visitorId guardId =>
    simp only [InFlight.proceed, bind_eq_ok] at proceeds
    obtain ⟨_, _, -, rfl⟩ := proceeds
    obtain rfl := mem_singleton.mp mem
    exact .inl trivial
  | closing visit visits =>
    simp only [InFlight.proceed, bind_eq_ok] at proceeds
    obtain ⟨_, _, -, rfl⟩ := proceeds
    obtain rfl := mem_singleton.mp mem
    exact .inl trivial
  | closed visit visits =>
    simp only [InFlight.proceed, bind_eq_ok] at proceeds
    obtain ⟨_, _, -, rfl⟩ := proceeds
    exact .inl (nextClosing_plain other mem)

theorem InFlight.Plain.day (plain : call.Plain) : call.Day := by
  cases call with
  | walkingIn guardId walkIn => exact plain.elim
  | registering draft accessCode => exact plain.elim
  | ending visitorId write => trivial
  | staying draft accessCode checkedAt settings => trivial
  | counting draft accessCode checkedAt settings snapshot since => trivial
  | leaving visitorId guardId => trivial
  | closing visit visits => trivial
  | closed visit visits => trivial

theorem proceed_day (proceeds : call.proceed env now db = .ok (after, rest)) : ∀ other ∈ rest, other.Day := by
  intro other mem
  rcases proceed_rest proceeds other mem with plain | ⟨-, _, _, _, _, ⟨-, rfl⟩ | ⟨-, rfl⟩⟩
  · exact plain.day
  · trivial
  · trivial

theorem WalkIn.Sound.begun {walkIn : WalkIn} {guardId : Id} (sound : walkIn.Sound) :
    InFlight.Begun env now db (.walkingIn guardId walkIn) := by
  cases walkIn with
  | waits draft => exact sound.2
  | enters draft => exact sound.2

theorem nextClosing_begun : ∀ call ∈ nextClosing visits, call.Begun env now db := by
  cases visits with
  | nil => exact fun _ mem => nomatch mem
  | cons visit rest =>
    intro call mem
    obtain rfl := mem_singleton.mp mem
    trivial

theorem begin_begun {request : VisitorRequest} (begins : request.begin env now db = .ok more) :
    ∀ call ∈ more, call.Begun env now db := by
  have one : ∀ {call : InFlight}, call.Begun env now db → ∀ other ∈ [call], other.Begun env now db := by
    intro call begun other mem
    exact mem_singleton.mp mem ▸ begun
  have checks : ∀ {visitorId : Id} {checks : Visitor → Result Ending}, checked db visitorId checks = .ok more →
      ∀ call ∈ more, call.Begun env now db := by
    intro visitorId checks passes
    simp only [checked, bind_eq_ok, pure_eq_ok] at passes
    obtain ⟨_, _, _, _, rfl⟩ := passes
    exact one trivial
  cases request with
  | create user dto accessCode =>
    simp only [VisitorRequest.begin, bind_eq_ok] at begins
    obtain ⟨draft, drafted, begins⟩ := begins
    split at begins
    · rename_i overnight
      exact pure_eq_ok.mp begins ▸ one ⟨rfl, user, dto, drafted, overnight⟩
    · rename_i day
      exact pure_eq_ok.mp begins ▸ one (Bool.eq_false_iff.mpr day)
  | createDeliveryPass user dto accessCode =>
    simp only [VisitorRequest.begin, bind_eq_ok, pure_eq_ok] at begins
    obtain ⟨draft, drafted, rfl⟩ := begins
    exact one (deliveryDraft_ok drafted).2
  | createWalkInUnit guard dto =>
    simp only [VisitorRequest.begin, bind_eq_ok, pure_eq_ok] at begins
    obtain ⟨walkIn, drafted, rfl⟩ := begins
    exact one (walkInUnit_ok drafted).begun
  | createWalkInOffice guard dto =>
    simp only [VisitorRequest.begin, bind_eq_ok, pure_eq_ok] at begins
    obtain ⟨walkIn, drafted, rfl⟩ := begins
    exact one (walkInOffice_ok drafted).begun
  | recurringCheckIn guard pass =>
    simp only [VisitorRequest.begin, bind_eq_ok, pure_eq_ok] at begins
    obtain ⟨draft, drafted, rfl⟩ := begins
    exact one (recurringDraft_ok drafted).2
  | approve visitorId user => exact checks begins
  | approveOvernight visitorId user accessCode => exact checks begins
  | reject visitorId user => exact checks begins
  | cancel visitorId user => exact checks begins
  | approveWalkInByGuard visitorId guard => exact checks begins
  | acknowledgeWalkIn visitorId guard => exact checks begins
  | checkIn found guard => exact checks begins
  | checkOut found guard =>
    simp only [VisitorRequest.begin, bind_eq_ok, pure_eq_ok] at begins
    obtain ⟨_, _, _, _, _, _, _, _, _, _, rfl⟩ := begins
    exact one trivial
  | autoClose condoId => exact pure_eq_ok.mp begins ▸ nextClosing_begun

theorem InFlight.Begun.day (begun : call.Begun env now db) : call.Day := by
  cases call with
  | walkingIn guardId walkIn => cases walkIn <;> exact begun
  | registering draft accessCode => exact begun
  | ending visitorId write => trivial
  | staying draft accessCode checkedAt settings => trivial
  | counting draft accessCode checkedAt settings snapshot since => trivial
  | leaving visitorId guardId => trivial
  | closing visit visits => trivial
  | closed visit visits => trivial

structure Tidy (state : VisitorState) : Prop where
  ids : Allocated (state.db.visitors.map Visitor.id) state.db.nextId
  days : ∀ call ∈ state.calls, call.Day

theorem RowChange.ids (ids : Allocated (db.visitors.map Visitor.id) db.nextId) (change : RowChange env now db call after)
    (grows : db.nextId ≤ after.nextId) : Allocated (after.visitors.map Visitor.id) after.nextId := by
  cases change with
  | keeps visitors => exact visitors ▸ ids.mono grows
  | writes writes visitors => exact visitors ▸ ids.updateBy grows fun _ => Ending.change_id
  | inserts inserts settled new visitors grows => exact visitors ▸ ids.insert new.id grows

theorem Tidy.step {before later : VisitorState} {event : VisitorEvent} (tidy : Tidy before)
    (step : VisitorStep env before event later) : Tidy later ∧ Surroundings before.db later.db := by
  obtain ⟨ids, days⟩ := tidy
  cases step with
  | expireApprovals =>
    exact ⟨⟨ids.updateWhere le_rfl fun _ _ _ => rfl, days⟩, rfl, rfl, le_rfl⟩
  | expirePasses =>
    exact ⟨⟨ids.updateWhere le_rfl fun _ _ _ => rfl, days⟩, rfl, rfl, le_rfl⟩
  | policies => exact ⟨⟨ids, days⟩, rfl, rfl, le_rfl⟩
  | begin begins =>
    refine ⟨⟨ids, fun call mem => ?_⟩, surroundings_rfl⟩
    rcases mem_append.mp mem with old | new
    · exact days call old
    · exact (begin_begun begins call new).day
  | proceed proceeds =>
    obtain ⟨change, others⟩ := proceed_rows ids proceeds
    refine ⟨⟨change.ids ids others.grows, fun call mem => ?_⟩, others⟩
    simp only [mem_append] at mem
    rcases mem with (early | new) | late
    · exact days call (mem_append_left _ early)
    · exact proceed_day proceeds call new
    · exact days call (mem_append_right _ (mem_cons_of_mem _ late))
  | abort aborts =>
    refine ⟨⟨ids, fun call mem => ?_⟩, surroundings_rfl⟩
    rcases mem_append.mp mem with early | late
    · exact days call (mem_append_left _ early)
    · exact days call (mem_append_right _ (mem_cons_of_mem _ late))

theorem create_steps {user : AuthenticatedUser} {dto : CreateVisitorDto} {accessCode : String}
    (ids : Allocated (db.visitors.map Visitor.id) db.nextId) (overnight : dto.overnight = true)
    (created : create env now accessCode db user dto = .ok after) :
    ∃ draft settings, settings = settingsOf env db draft.condoId ∧ createDraft env now db user dto = .ok draft ∧
      VisitorStep env ⟨db, []⟩ (.begin now (.create user dto accessCode)) ⟨db, [.staying draft accessCode now settings]⟩ ∧
      VisitorStep env ⟨db, [.staying draft accessCode now settings]⟩ (.proceed now (.staying draft accessCode now settings))
        ⟨db, [.counting draft accessCode now settings db.visitors db.nextId]⟩ ∧
      VisitorStep env ⟨db, [.counting draft accessCode now settings db.visitors db.nextId]⟩
        (.proceed now (.counting draft accessCode now settings db.visitors db.nextId)) ⟨after, []⟩ := by
  simp only [create, bind_eq_ok] at created
  obtain ⟨draft, drafted, inserts⟩ := created
  have stays : draft.overnight = true := (createDraft_ok drafted).overnight.trans overnight
  rw [if_pos stays] at inserts
  have begins : (VisitorRequest.create user dto accessCode).begin env now db =
      .ok [.staying draft accessCode now (settingsOf env db draft.condoId)] := by
    simp only [VisitorRequest.begin, drafted]
    show (if draft.overnight = true then _ else _) = _
    rw [if_pos stays]
    rfl
  have fresh : outdated env db draft db.nextId = false := by
    refine any_eq_false.mpr fun visitor mem => ?_
    have below := ids.below visitor.id (mem_map_of_mem mem)
    simp [Nat.not_le.mpr below]
  have counted : (InFlight.counting draft accessCode now (settingsOf env db draft.condoId) db.visitors db.nextId).proceed
      env now db = .ok (after, []) := by
    simp only [InFlight.proceed, fresh, inserts]
    rfl
  have read : (InFlight.staying draft accessCode now (settingsOf env db draft.condoId)).proceed env now db =
      .ok (db, [.counting draft accessCode now (settingsOf env db draft.condoId) db.visitors db.nextId]) := rfl
  have second : VisitorStep env ⟨db, [] ++ _ :: []⟩ _ ⟨db, [] ++ _ ++ []⟩ := .proceed read
  have third : VisitorStep env ⟨db, [] ++ _ :: []⟩ _ ⟨after, [] ++ [] ++ []⟩ := .proceed counted
  exact ⟨draft, _, rfl, drafted, .begin begins, second, third⟩

end

end SmartResidence.Visitors
