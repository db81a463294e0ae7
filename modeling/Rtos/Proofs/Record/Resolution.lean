import Rtos.Proofs.Record.Moment

/-!
# Resolution of records

An open waits for its record only as long as nothing was published under the name. From the
moment at which a create has ended, an open that is in progress and has not given up does
not wait any more: its own next steps end it with the data, or with the fault of having
asked for another type, whatever happens in between. The same is true of an open that begins
later, until the record is removed.
-/

namespace Rtos

namespace Registry

variable {Party : Type} [DecidableEq Party]

/-- The answers to the steps of the opens of a party under a name. -/
def answersTo (name : Bytes) (party : Party) (happenings : List (Happening Party)) :
    List Record.Slot.Answer :=
  happenings.filterMap fun happening =>
    if happening.name = name ∧ happening.event = .advance party then some happening.answer
    else none

/-- Whether a happening is the removal of the record of a name. -/
def Happening.Removes (name : Bytes) (happening : Happening Party) : Prop :=
  happening.name = name ∧ happening.event = .destroy ∧ happening.answer = .removed true

/-- What an open in progress answers in its next steps once there is data. -/
def resolution (name : Bytes) (data : Record.Data) (opening : Record.Opening Party) :
    List Record.Slot.Answer :=
  match opening.stage with
  | .looking => [.pending, data.answer name opening.wanted]
  | _ => [data.answer name opening.wanted]

namespace Moment

/-- There is data under a name, and no create is about to raise the flag for it. -/
structure Published (moment : Moment Party) (name : Bytes) (data : Record.Data) : Prop where
  settled : moment.Settled name
  stored : (moment.slot name).data = some data

/-- The open of a party under a name goes through with what is listed. -/
structure Resolves (moment : Moment Party) (name : Bytes) (party : Party)
    (answers : List Record.Slot.Answer) : Prop where
  /-- Whatever happens, its next steps answer what is listed. -/
  answered : ∀ happenings later, moment.Leads happenings later →
    (answersTo name party happenings).take answers.length <+: answers
  /-- Whatever happens, it does not wait before it has answered all of it. -/
  awake : ∀ happenings later, moment.Leads happenings later →
    (answersTo name party happenings).length < answers.length →
      ∃ opening ∈ (later.slot name).openings,
        opening.party = party ∧ opening.stage ≠ .parked
  /-- Nothing is in the way of its answering all of it. -/
  completes : ∃ happenings later, moment.Leads happenings later ∧
    answersTo name party happenings = answers

variable {moment later : Moment Party} {happening? : Option (Happening Party)}
  {happenings : List (Happening Party)} {name : Bytes} {data : Record.Data}
  {opening : Record.Opening Party}

theorem Published.touched (published : moment.Published name data)
    (touched : moment.Touches name happening? later) :
    later.Published name data ∨ ∃ happening ∈ happening?, happening.Removes name := by
  cases touched with
  | elsewhere happening? later other same settled =>
      exact .inl ⟨settled, same ▸ published.stored⟩
  | stored later pending =>
      rw [published.stored] at pending
      contradiction
  | here event later permitted moved settled =>
      have transition := (moment.slot name).step_transition name moment.registry.interval event
      rcases transition.data_stays published.stored with stays | ⟨destroy, removed⟩
      · exact .inl ⟨settled, moved ▸ stays⟩
      · exact .inr ⟨_, rfl, rfl, destroy, removed⟩

/-- Until the record is removed its data stays published. -/
theorem Published.leads (leads : moment.Leads happenings later)
    (published : moment.Published name data)
    (kept : ∀ happening ∈ happenings, ¬happening.Removes name) :
    later.Published name data := by
  induction leads with
  | stay moment => exact published
  | go next leads ih =>
      simp only [List.mem_append, Option.mem_toList] at kept
      rcases published.touched (next.touches published.settled) with still | ⟨_, same, removes⟩
      · exact ih still fun happening later => kept happening (.inr later)
      · exact absurd removes (kept _ (.inl same))

/-- What can happen next to an open that is awake at published data: it looks, it ends, or
it is left alone. -/
inductive Approaches (name : Bytes) (data : Record.Data) (opening : Record.Opening Party) :
    Option (Happening Party) → Moment Party → Prop where
  | looked (later : Moment Party) (looking : opening.stage = .looking)
      (present : { opening with stage := .ready } ∈ (later.slot name).openings)
      (published : later.Published name data) :
      Approaches name data opening (some ⟨name, .advance opening.party, .pending⟩) later
  | ended (later : Moment Party) (ready : opening.stage = .ready) :
      Approaches name data opening
        (some ⟨name, .advance opening.party, data.answer name opening.wanted⟩) later
  | untouched (happening? : Option (Happening Party)) (later : Moment Party)
      (other : ∀ happening ∈ happening?,
        ¬(happening.name = name ∧ happening.event = .advance opening.party))
      (present : opening ∈ (later.slot name).openings)
      (published : later.Published name data) :
      Approaches name data opening happening? later

/-- While an open is in progress the record is not removed. -/
theorem Published.attended (published : moment.Published name data) (sound : moment.Sound name)
    (present : opening ∈ (moment.slot name).openings)
    (touched : moment.Touches name happening? later) : later.Published name data := by
  rcases published.touched touched with still | ⟨happening, own, named, _, removed⟩
  · exact still
  · cases touched with
    | elsewhere happening? later other same settled => exact absurd named (other happening own)
    | stored later pending => contradiction
    | here event later permitted moved settled =>
        cases own
        have transition := (moment.slot name).step_transition name moment.registry.interval event
        exact absurd removed (transition.not_removed sound.balanced present)

theorem Next.approaches (possible : moment.Possible) (published : moment.Published name data)
    (present : opening ∈ (moment.slot name).openings) (awake : opening.Awake)
    (next : moment.Next happening? later) : Approaches name data opening happening? later := by
  have sound := possible.sound published.settled
  have found := Record.Slot.opening?_of_mem sound.balanced.distinct present
  have touched := next.touches published.settled
  have still := published.attended sound present touched
  cases touched with
  | elsewhere happening? later other same settled =>
      refine .untouched happening? later ?_ (same ▸ present) still
      intro happening own advances
      exact other happening own advances.1
  | stored later pending =>
      rw [published.stored] at pending
      contradiction
  | here event later permitted moved settled =>
      by_cases own : event = .advance opening.party
      · subst own
        rcases awake with looking | ready
        · have raised := sound.coherent.isRaised_of_data published.stored present
          have looked := Record.Slot.advance_of_looking name moment.registry.interval found
            looking raised
          rw [Record.Slot.step, looked] at moved ⊢
          refine .looked later looking ?_ still
          rw [moved]
          exact List.mem_map.mpr ⟨opening, present, if_pos rfl⟩
        · have ended := Record.Slot.answer_advance_of_ready name moment.registry.interval found
            ready published.stored
          rw [Record.Slot.step, ended]
          exact .ended later ready
      · refine .untouched _ later ?_ ?_ still
        · rintro _ ⟨⟩ ⟨_, advances⟩
          exact own advances
        · rw [moved]
          by_cases timed : event = .expire opening.party
          · subst timed
            rw [Record.Slot.step, Record.Slot.expire_of_awake name _ found awake]
            exact present
          · have transition :=
              (moment.slot name).step_transition name moment.registry.interval event
            exact transition.stays published.stored present own timed

@[simp]
theorem answersTo_cons (name : Bytes) (party : Party) (answer : Record.Slot.Answer)
    (happenings : List (Happening Party)) :
    answersTo name party (⟨name, .advance party, answer⟩ :: happenings) =
      answer :: answersTo name party happenings := by
  simp [answersTo]

theorem answersTo_append_of_other {party : Party}
    (other : ∀ happening ∈ happening?,
      ¬(happening.name = name ∧ happening.event = .advance party))
    (happenings : List (Happening Party)) :
    answersTo name party (happening?.toList ++ happenings) =
      answersTo name party happenings := by
  cases happening? with
  | none => rfl
  | some happening => simp [answersTo, other happening rfl]

/-! ## Creates -/

theorem Possible.record_of_creation (possible : moment.Possible)
    (busy : moment.creation = some (name, data)) :
    (∃ record, (moment.slot name).record = some record) ∧
      (moment.slot name).data = some data := by
  rcases possible.exists_reached with ⟨quiet, _, follows⟩
  have stored : moment.slot name = (quiet.slot name).store data := by
    rw [slot, follows.slots, busy, slotDuring_some, if_pos rfl]
  rw [stored]
  exact ⟨⟨_, rfl⟩, rfl⟩

theorem Next.idle (next : moment.Next none later) (busy : moment.creation ≠ none) :
    later.creation = none := by
  cases next with
  | store idle target pending => contradiction
  | raise target published begun record found => rfl

/-- A create that has stored its data can go on, and has then published it. -/
theorem Possible.creates (possible : moment.Possible)
    (busy : moment.creation = some (name, data)) :
    (∃ later, moment.Next none later) ∧
      ∀ later, moment.Next none later → later.Published name data := by
  rcases possible.record_of_creation busy with ⟨⟨record, found⟩, stored⟩
  refine ⟨⟨_, .raise name data busy record found⟩, ?_⟩
  intro later next
  cases next with
  | store idle target pending =>
      rw [busy] at idle
      contradiction
  | raise target published begun record found =>
      rw [busy, Option.some.injEq, Prod.mk.injEq] at begun
      rcases begun with ⟨rfl, rfl⟩
      refine ⟨rfl, ?_⟩
      simpa [slot, Record.Slot.raise, Record.Slot.data] using stored

/-- The steps of an open that is awake at published data, and that it is never parked. -/
theorem Published.approached (possible : moment.Possible)
    (published : moment.Published name data) (present : opening ∈ (moment.slot name).openings)
    (awake : opening.Awake) (leads : moment.Leads happenings later) :
    (answersTo name opening.party happenings).take (resolution name data opening).length <+:
        resolution name data opening ∧
      ((answersTo name opening.party happenings).length <
          (resolution name data opening).length →
        ∃ left ∈ (later.slot name).openings,
          left.party = opening.party ∧ left.stage ≠ .parked) := by
  -- What happens leaves the open awake at the same data, or takes an answer off its list.
  induction leads generalizing opening with
  | stay moment =>
      refine ⟨by simp [answersTo], fun _ => ⟨opening, present, rfl, ?_⟩⟩
      rcases awake with looking | ready <;> simp [*]
  | go next leads ih =>
      cases next.approaches possible published present awake with
      | looked between looking present published =>
          rcases ih (possible.next next) published present (.inr rfl) with ⟨answers, waits⟩
          simp only [resolution, looking, Option.toList_some, List.singleton_append,
            answersTo_cons] at answers waits ⊢
          refine ⟨?_, fun few => waits ?_⟩
          · simpa using answers
          · exact Nat.lt_of_succ_lt_succ few
      | ended between ready =>
          simp [resolution, ready]
      | untouched happening? between other present published =>
          rw [answersTo_append_of_other other]
          exact ih (possible.next next) published present awake

/-- An open that is awake can take its next step, at the latest when a create has ended. -/
theorem Published.stepped (possible : moment.Possible) (published : moment.Published name data)
    (present : opening ∈ (moment.slot name).openings) (awake : opening.Awake) :
    ∃ answer later, moment.Leads [⟨name, .advance opening.party, answer⟩] later ∧
      later.Possible ∧
      Approaches name data opening (some ⟨name, .advance opening.party, answer⟩) later := by
  have idle : ∃ between, moment.Leads [] between ∧ between.creation = none ∧
      between.Possible ∧ between.Published name data ∧
      opening ∈ (between.slot name).openings := by
    cases busy : moment.creation with
    | none => exact ⟨moment, .stay moment, busy, possible, published, present⟩
    | some creation =>
        rcases (possible.creates busy).1 with ⟨between, next⟩
        have ended := next.idle (by simp [busy])
        cases next.approaches possible published present awake with
        | untouched happening? between other present published =>
            exact ⟨between, .go next (.stay between), ended, possible.next next, published,
              present⟩
  rcases idle with ⟨between, leads, idle, possible, published, present⟩
  have next := Next.step idle name (.advance opening.party) nofun
  exact ⟨_, _, leads.trans (.go next (.stay _)), possible.next next,
    next.approaches possible published present awake⟩

theorem Published.completes_of_ready (possible : moment.Possible)
    (published : moment.Published name data) (present : opening ∈ (moment.slot name).openings)
    (ready : opening.stage = .ready) :
    ∃ later, moment.Leads
      [⟨name, .advance opening.party, data.answer name opening.wanted⟩] later := by
  rcases published.stepped possible present (.inr ready) with
    ⟨answer, later, leads, _, approaches⟩
  cases approaches with
  | looked later looking present published =>
      rw [ready] at looking
      contradiction
  | ended later ready => exact ⟨later, leads⟩
  | untouched happening? later other present published => exact absurd ⟨rfl, rfl⟩ (other _ rfl)

theorem Published.completes (possible : moment.Possible) (published : moment.Published name data)
    (present : opening ∈ (moment.slot name).openings) (awake : opening.Awake) :
    ∃ happenings later, moment.Leads happenings later ∧
      answersTo name opening.party happenings = resolution name data opening := by
  rcases awake with looking | ready
  · rcases published.stepped possible present (.inl looking) with
      ⟨answer, later, leads, possible, approaches⟩
    cases approaches with
    | looked later looking present published =>
        rcases published.completes_of_ready possible present rfl with ⟨last, ends⟩
        refine ⟨_, last, leads.trans ends, ?_⟩
        simp [answersTo, resolution, looking]
    | ended later ready =>
        rw [ready] at looking
        contradiction
    | untouched happening? later other present published =>
        exact absurd ⟨rfl, rfl⟩ (other _ rfl)
  · rcases published.completes_of_ready possible present ready with ⟨last, ends⟩
    refine ⟨_, last, ends, ?_⟩
    simp [answersTo, resolution, ready]

/-- An open that is awake at published data resolves. -/
theorem Published.resolves (possible : moment.Possible) (published : moment.Published name data)
    (present : opening ∈ (moment.slot name).openings) (awake : opening.Awake) :
    moment.Resolves name opening.party (resolution name data opening) where
  answered _ _ leads := (published.approached possible present awake leads).1
  awake _ _ leads := (published.approached possible present awake leads).2
  completes := published.completes possible present awake

/-! ## Opens that begin later -/

theorem Next.publishes {happening : Happening Party} (next : moment.Next (some happening) later)
    (creates : happening.event = .publish data) (done : happening.answer = .done) :
    later.Published happening.name data := by
  rcases happening with ⟨name, event, answer⟩
  have settled : moment.Settled name := by
    cases next with
    | step idle name event permitted => simp [Settled, creating, idle]
    | look busy name event look =>
        cases creates
        simp [Record.Slot.isLook] at look
  have touched := next.touches settled
  cases touched with
  | elsewhere happening? later other same settled => exact absurd rfl (other _ rfl)
  | here event later permitted moved settled =>
      cases creates
      have transition := (moment.slot name).step_transition name moment.registry.interval
        (.publish data)
      exact ⟨settled, moved ▸ transition.publishes done⟩

theorem Published.begins (possible : moment.Possible) (published : moment.Published name data)
    {happening : Happening Party} (next : moment.Next (some happening) later)
    (named : happening.name = name) {party : Party} {wanted : ValueType}
    {patience : Record.Patience} (begins : happening.event = .hold party wanted patience)
    (free : party ∉ (moment.slot name).parties) :
    later.Resolves name party [.pending, data.answer name wanted] := by
  have touched := next.touches published.settled
  have still : later.Published name data := by
    rcases published.touched touched with still | ⟨removal, own, _, destroys, _⟩
    · exact still
    · rw [← Option.mem_some.mp own, begins] at destroys
      contradiction
  cases touched with
  | elsewhere happening? later other same settled => exact absurd named (other _ rfl)
  | here event later permitted moved settled =>
      cases begins
      rw [Record.Slot.step_hold free] at moved
      have present : { party, wanted, flag := (moment.slot name).ensure.2.flag, patience } ∈
          (later.slot name).openings := by
        rw [moved, Record.Slot.openings_hold]
        exact List.mem_append_right _ (List.mem_singleton.mpr rfl)
      exact still.resolves (possible.next next) present (.inl rfl)

/--
Nobody waits for a record but one that is there and has no data, unless a create is about to
raise its flag. A create that has stored data goes on to publish it. From then on every open
in progress that has not given up resolves, and so does every open that begins before the
record is removed.
-/
theorem Possible.blocking_resolution (possible : moment.Possible) :
    (∀ name, moment.Settled name → ∀ opening ∈ (moment.slot name).openings,
      opening.stage = .parked →
        ∃ record, (moment.slot name).record = some record ∧ record.data = none) ∧
    (∀ name data, moment.creation = some (name, data) →
      (∃ later, moment.Next none later) ∧
        ∀ later, moment.Next none later → later.Published name data) ∧
    (∀ happening later data, moment.Next (some happening) later →
      happening.event = .publish data → happening.answer = .done →
        later.Published happening.name data) ∧
    ∀ name data, moment.Published name data →
      (∀ opening ∈ (moment.slot name).openings, (∀ error, opening.stage ≠ .failed error) →
        moment.Resolves name opening.party (resolution name data opening)) ∧
      ∀ happenings later, moment.Leads happenings later →
        (∀ happening ∈ happenings, ¬happening.Removes name) →
          later.Published name data ∧
          ∀ happening begun party wanted patience, later.Next (some happening) begun →
            happening.name = name → happening.event = .hold party wanted patience →
            party ∉ (later.slot name).parties →
              begun.Resolves name party [.pending, data.answer name wanted] := by
  refine ⟨?_, fun _ _ => possible.creates, fun _ _ _ => Next.publishes, ?_⟩
  · intro name settled opening present parked
    have sound := possible.sound settled
    rcases (sound.coherent.placed opening present).flag with ⟨stored, content⟩
    rcases Option.map_eq_some_iff.mp content with ⟨record, found, _⟩
    refine ⟨record, found, ?_⟩
    cases published : record.data with
    | none => rfl
    | some data =>
        rw [← (moment.slot name).data_of_record found] at published
        exact absurd parked (sound.coherent.notParked sound.vigilant published present)
  · intro name data published
    have sound := possible.sound published.settled
    constructor
    · intro opening present going
      refine published.resolves possible present ?_
      have unparked := sound.coherent.notParked sound.vigilant published.stored present
      cases stage : opening.stage with
      | looking => exact .inl stage
      | ready => exact .inr stage
      | parked => exact absurd stage unparked
      | failed error => exact absurd stage (going error)
    · intro happenings later leads kept
      have still := published.leads leads kept
      exact ⟨still, fun _ _ _ _ _ next named begins free =>
        still.begins (possible.leads leads) next named begins free⟩

/-- An open has taken its hold before a create and looks between its two steps; another asks
for a type of its own. Once the flag is raised both resolve, and so does one that begins then. -/
theorem blocking_resolution_of_woken :
    ∃ moment begun : Moment Nat, moment.Possible ∧ moment.Published [115] ⟨.unit, .unit⟩ ∧
      (moment.slot [115]).parties = [0, 1] ∧
      moment.Resolves [115] 0 [.pending, .opened .unit] ∧
      moment.Resolves [115] 1 [.pending, .broken (.wrongType [115] .text)] ∧
      moment.Next (some ⟨[115], .hold 2 .unit .unlimited, .pending⟩) begun ∧
      begun.Resolves [115] 2 [.pending, .opened .unit] := by
  have start : Possible ({ registry := { interval := ⟨1⟩ } } : Moment Nat) := .start _
  have first := start.next (.step rfl [115] (.hold 0 .unit .unlimited) nofun)
  have second := first.next (.step rfl [115] (.hold 1 .text (.limited .forever)) nofun)
  have stored := second.next (.store rfl [115] ⟨.unit, .unit⟩ (by rfl))
  have parked := stored.next (.look rfl [115] (.advance 0) (by rfl))
  have raised := parked.next (.raise [115] ⟨.unit, .unit⟩ rfl _ (by rfl))
  rcases raised.blocking_resolution.2.2.2 [115] ⟨.unit, .unit⟩ ⟨rfl, rfl⟩ with
    ⟨waiting, later⟩
  rcases later [] _ (.stay _) (by simp) with ⟨published, begins⟩
  refine ⟨_, _, raised, published, rfl, ?_, ?_,
    .step rfl [115] (.hold 2 .unit .unlimited) nofun, ?_⟩
  · exact waiting ⟨0, .unit, 0, .unlimited, .looking⟩ (by decide) nofun
  · exact waiting ⟨1, .text, 0, .limited .forever, .looking⟩ (by decide) nofun
  · exact begins _ _ 2 .unit .unlimited (.step rfl [115] (.hold 2 .unit .unlimited) nofun) rfl
      rfl (by decide)

end Moment

end Registry

end Rtos
