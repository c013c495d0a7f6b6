import Mathlib.Data.List.Basic

/-!
# Runs that a turn can stop

A program takes its inputs one by one; every turn gives some outputs and a new state, and may stop
the run for a reason of its own.

* `run_append` — inputs behind others are reached when nothing stops before them;
* `run_turnOf` — inputs that are passed over;
* `run_flatMap_congr` — two ways to cut the inputs into pieces run alike when they agree on every
  input that is reached;
* `run_rule` — **rule for whole runs**: what holds after the turns that go on, and of the last one;
* `run_ends` — **rule for the end of a run**: an invariant of outputs and state, and what the turn that
  stops the run makes of it;
* `run_history` — **rule for histories**: what every turn keeps of the outputs so far and the state;
* `run_stops_at` — **where a run stops**;
* `run_view` — **refinement rule**: a run seen through a view is a run of the program that makes
  every turn as the view shows it;
* `run_lenient` — a program that goes on where another one gives up has done all that the other
  did, and the same if the other does not give up.
-/

set_option autoImplicit false

namespace StoppingRun

/-- How a turn ends. -/
inductive Turn (ε ρ σ : Type) where
  | next (outputs : List ε) (state : σ)
  | stop (outputs : List ε) (reason : ρ) (state : σ)

def Turn.outputs {ε ρ σ : Type} : Turn ε ρ σ → List ε
  | .next outputs _ | .stop outputs _ _ => outputs

def Turn.state {ε ρ σ : Type} : Turn ε ρ σ → σ
  | .next _ s | .stop _ _ s => s

/-- How a run ends; without a reason, the inputs were used up. -/
structure Ended (ε ρ σ : Type) where
  outputs : List ε
  reason : Option ρ
  state : σ

section Run

variable {ι α ε ρ σ : Type}

/-- The outputs of earlier turns come first. -/
def Ended.after (earlier : List ε) (r : Ended ε ρ σ) : Ended ε ρ σ :=
  { r with outputs := earlier ++ r.outputs }

/-- The inputs one after the other, until a turn stops the run or has no result. -/
def run (turn : ι → σ → Option (Turn ε ρ σ)) : List ι → σ → Option (Ended ε ρ σ)
  | [], s => some ⟨[], none, s⟩
  | i :: is, s =>
    match turn i s with
    | none => none
    | some (.next outputs s') => (run turn is s').map (Ended.after outputs)
    | some (.stop outputs reason s') => some ⟨outputs, some reason, s'⟩

@[simp] theorem Ended.after_nil (r : Ended ε ρ σ) : r.after [] = r := rfl

theorem Ended.after_after (a b : List ε) (r : Ended ε ρ σ) :
    (r.after b).after a = r.after (a ++ b) := by
  rw [Ended.after, Ended.after, Ended.after, List.append_assoc]

@[simp] theorem Ended.after_reason (a : List ε) (r : Ended ε ρ σ) :
    (r.after a).reason = r.reason := rfl

variable {turn : ι → σ → Option (Turn ε ρ σ)}

/-- **More inputs** are reached when nothing stops the run before them. -/
theorem run_append (as bs : List ι) (s : σ) :
    run turn (as ++ bs) s = (run turn as s).bind fun r =>
      match r.reason with
      | none => (run turn bs r.state).map (Ended.after r.outputs)
      | some _ => some r := by
  induction as generalizing s with
  | nil => cases h : run turn bs s <;> simp [run, h]
  | cons i as ih =>
    rw [List.cons_append, run, run]
    cases turn i s with
    | none => rfl
    | some t =>
      cases t with
      | stop outputs reason s' => rfl
      | next outputs s' =>
        simp only [ih, Option.map_bind, Option.bind_map]
        refine Option.bind_congr fun r _ => ?_
        cases h : r.reason with
        | none =>
          simp only [Function.comp_apply, Ended.after_reason, h, Option.map_map]
          congr 1
          exact funext fun r' => Ended.after_after _ _ _
        | some reason => simp [h]

/-- A turn for what `f` finds in an input; without it, the input is passed over. -/
def turnOf (f : α → Option ι) (turn : ι → σ → Option (Turn ε ρ σ)) (x : α) (s : σ) :
    Option (Turn ε ρ σ) :=
  match f x with
  | none => some (.next [] s)
  | some i => turn i s

/-- **Inputs of which some are passed over.** -/
theorem run_turnOf (f : α → Option ι) (xs : List α) (s : σ) :
    run (turnOf f turn) xs s = run turn (xs.filterMap f) s := by
  induction xs generalizing s with
  | nil => rfl
  | cons x xs ih =>
    rw [run, List.filterMap_cons, turnOf]
    cases f x with
    | none =>
      simp only [ih]
      cases run turn (xs.filterMap f) s <;> rfl
    | some i =>
      simp only [run]
      cases turn i s with
      | none => rfl
      | some t =>
        cases t with
        | stop outputs reason s' => rfl
        | next outputs s' => simp only [ih]

/-- Every input that a run comes to is good; an input is cut into pieces by `cut`. -/
def ReachesGood (turn : ι → σ → Option (Turn ε ρ σ)) (cut : α → List ι) (good : α → Prop) :
    List α → σ → Prop
  | [], _ => True
  | x :: xs, s => good x ∧
    ∀ r, run turn (cut x) s = some r → r.reason = none → ReachesGood turn cut good xs r.state

theorem reachesGood_of_forall {cut : α → List ι} {good : α → Prop} {xs : List α}
    (h : ∀ x ∈ xs, good x) (s : σ) : ReachesGood turn cut good xs s := by
  induction xs generalizing s with
  | nil => trivial
  | cons x xs ih =>
    obtain ⟨hx, hxs⟩ := List.forall_mem_cons.mp h
    exact ⟨hx, fun r _ _ => ih hxs r.state⟩

/-- **Two ways to cut the inputs** run alike when they agree on every input that is reached. -/
theorem run_flatMap_congr {f g : α → List ι} {xs : List α} {s : σ}
    (h : ReachesGood turn g (fun x => f x = g x) xs s) :
    run turn (xs.flatMap f) s = run turn (xs.flatMap g) s := by
  induction xs generalizing s with
  | nil => rfl
  | cons x xs ih =>
    obtain ⟨hx, hxs⟩ := h
    rw [List.flatMap_cons, List.flatMap_cons, run_append, run_append, hx]
    refine Option.bind_congr fun r hr => ?_
    cases hreason : r.reason with
    | none => simp only [ih (hxs r hr hreason)]
    | some reason => rfl

/-- **Rule for whole runs.**  An invariant of the state gives every output of a turn that goes on
the property `good`, and the outputs of the turn that stops the run the property `last`. -/
theorem run_rule {inv : σ → Prop} {good : ε → Prop} {last : List ε → ρ → Prop}
    (hnext : ∀ i s outputs s', inv s → turn i s = some (.next outputs s') →
      inv s' ∧ ∀ e ∈ outputs, good e)
    (hstop : ∀ i s outputs reason s', inv s → turn i s = some (.stop outputs reason s') →
      last outputs reason)
    {is : List ι} {s : σ} (hs : inv s) {r : Ended ε ρ σ} (h : run turn is s = some r) :
    ∃ before final, r.outputs = before ++ final ∧ (∀ e ∈ before, good e) ∧
      ((r.reason = none ∧ final = []) ∨ ∃ reason, r.reason = some reason ∧ last final reason) := by
  induction is generalizing s r with
  | nil =>
    cases h
    exact ⟨[], [], rfl, by simp, Or.inl ⟨rfl, rfl⟩⟩
  | cons i is ih =>
    rw [run] at h
    cases hturn : turn i s with
    | none =>
      rw [hturn] at h
      cases h
    | some t =>
      rw [hturn] at h
      cases t with
      | stop outputs reason s' =>
        cases h
        exact ⟨[], outputs, rfl, by simp, Or.inr ⟨reason, rfl, hstop _ _ _ _ _ hs hturn⟩⟩
      | next outputs s' =>
        obtain ⟨hs', hgood⟩ := hnext _ _ _ _ hs hturn
        obtain ⟨r', hr', rfl⟩ := Option.map_eq_some_iff.mp h
        obtain ⟨before, final, hsplit, hbefore, hend⟩ := ih hs' hr'
        refine ⟨outputs ++ before, final, ?_, ?_, hend⟩
        · rw [Ended.after, hsplit, List.append_assoc]
        · intro e he
          rcases List.mem_append.mp he with he | he
          · exact hgood e he
          · exact hbefore e he

/-- **Rule for the end of a run.**  A relation `J` between the outputs so far and the state that every
turn which goes on keeps holds when the inputs are used up; the turn that stops the run leads from it
to `K`. -/
theorem run_ends {J : List ε → σ → Prop} {K : List ε → ρ → σ → Prop}
    (hnext : ∀ i s earlier outputs s', J earlier s → turn i s = some (.next outputs s') →
      J (earlier ++ outputs) s')
    (hstop : ∀ i s earlier outputs reason s', J earlier s →
      turn i s = some (.stop outputs reason s') → K (earlier ++ outputs) reason s')
    {is : List ι} {s : σ} {earlier : List ε} (hs : J earlier s) {r : Ended ε ρ σ}
    (h : run turn is s = some r) :
    (r.reason = none ∧ J (earlier ++ r.outputs) r.state) ∨
      ∃ reason, r.reason = some reason ∧ K (earlier ++ r.outputs) reason r.state := by
  induction is generalizing s earlier r with
  | nil =>
    cases h
    rw [List.append_nil]
    exact Or.inl ⟨rfl, hs⟩
  | cons i is ih =>
    rw [run] at h
    cases hturn : turn i s with
    | none =>
      rw [hturn] at h
      cases h
    | some t =>
      rw [hturn] at h
      cases t with
      | stop outputs reason s' =>
        cases h
        exact Or.inr ⟨reason, rfl, hstop _ _ _ _ _ _ hs hturn⟩
      | next outputs s' =>
        obtain ⟨r', hr', rfl⟩ := Option.map_eq_some_iff.mp h
        have hend := ih (hnext _ _ _ _ _ hs hturn) hr'
        rw [List.append_assoc] at hend
        exact hend

/-- **Rule for histories.**  A relation between the outputs so far and the state that every turn
keeps holds at the end of a run. -/
theorem run_history {J : List ε → σ → Prop}
    (hturn : ∀ i s earlier t, J earlier s → turn i s = some t → J (earlier ++ t.outputs) t.state)
    {is : List ι} {s : σ} {earlier : List ε} (hs : J earlier s) {r : Ended ε ρ σ}
    (h : run turn is s = some r) : J (earlier ++ r.outputs) r.state := by
  rcases run_ends (K := fun outputs _ => J outputs) (fun i s earlier _ _ => hturn i s earlier _)
    (fun i s earlier _ _ _ => hturn i s earlier _) hs h with ⟨_, hend⟩ | ⟨_, _, hend⟩
  · exact hend
  · exact hend

/-- **Where a run stops**: the inputs before were used up, and the turn of the next one stopped it. -/
theorem run_stops_at {is : List ι} {s : σ} {r : Ended ε ρ σ} {reason : ρ}
    (h : run turn is s = some r) (hreason : r.reason = some reason) :
    ∃ before i after outputs s' last, is = before ++ i :: after ∧
      run turn before s = some ⟨outputs, none, s'⟩ ∧
      turn i s' = some (.stop last reason r.state) ∧ r.outputs = outputs ++ last := by
  induction is generalizing s r with
  | nil =>
    cases h
    cases hreason
  | cons i is ih =>
    rw [run] at h
    cases hturn : turn i s with
    | none =>
      rw [hturn] at h
      cases h
    | some t =>
      rw [hturn] at h
      cases t with
      | stop outputs stopped s' =>
        cases h
        cases hreason
        exact ⟨[], i, is, [], s, outputs, rfl, rfl, hturn, rfl⟩
      | next outputs s' =>
        obtain ⟨r', hr', rfl⟩ := Option.map_eq_some_iff.mp h
        obtain ⟨before, j, after, earlier, s₂, last, rfl, hbefore, hlast, hsplit⟩ :=
          ih hr' hreason
        refine ⟨i :: before, j, after, outputs ++ earlier, s₂, last, rfl, ?_, hlast, ?_⟩
        · rw [run, hturn]
          simp only [hbefore]
          rfl
        · rw [Ended.after, hsplit, List.append_assoc]

end Run

/-! ## Views -/

section View

variable {ι ε δ ρ σ τ : Type}

/-- A turn with outputs and state seen through a view. -/
def Turn.view (f : ε → δ) (g : σ → τ) : Turn ε ρ σ → Turn δ ρ τ
  | .next outputs s => .next (outputs.map f) (g s)
  | .stop outputs reason s => .stop (outputs.map f) reason (g s)

/-- The end of a run, seen through a view. -/
def Ended.view (f : ε → δ) (g : σ → τ) (r : Ended ε ρ σ) : Ended δ ρ τ :=
  ⟨r.outputs.map f, r.reason, g r.state⟩

theorem Ended.view_after (f : ε → δ) (g : σ → τ) (earlier : List ε) (r : Ended ε ρ σ) :
    (r.after earlier).view f g = (r.view f g).after (earlier.map f) := by
  simp [Ended.view, Ended.after]

/-- **Refinement rule.**  When every turn from an invariant state looks like a turn of another
program, a whole run looks like a run of that program. -/
theorem run_view {turn : ι → σ → Option (Turn ε ρ σ)} {turn' : ι → τ → Option (Turn δ ρ τ)}
    {f : ε → δ} {g : σ → τ} {inv : σ → Prop}
    (hinv : ∀ i s outputs s', inv s → turn i s = some (.next outputs s') → inv s')
    (hview : ∀ i s, inv s → (turn i s).map (Turn.view f g) = turn' i (g s))
    (is : List ι) {s : σ} (hs : inv s) :
    (run turn is s).map (Ended.view f g) = run turn' is (g s) := by
  induction is generalizing s with
  | nil => rfl
  | cons i is ih =>
    have hone := hview i s hs
    rw [run, run, ← hone]
    cases hturn : turn i s with
    | none => rfl
    | some t =>
      cases t with
      | stop outputs reason s' => rfl
      | next outputs s' =>
        have hrest := ih (hinv _ _ _ _ hs hturn)
        simp only [Option.map_some, Turn.view, ← hrest, Option.map_map]
        congr 1
        exact funext fun r => Ended.view_after f g outputs r

end View

/-! ## Lenient programs -/

section Lenient

variable {ι ε δ ρ κ σ : Type}

/-- What a lenient program shows behind the outputs of a strict one: nothing more, in the same
state, when the strict one used up its inputs or stopped for a reason that both know. -/
structure Overtakes (final : ρ → Prop) (shown : δ → Option ε) (r : Ended ε ρ σ)
    (e : Ended δ κ σ) (later : List ε) : Prop where
  split : e.outputs.filterMap shown = r.outputs ++ later
  unused : r.reason = none → later = [] ∧ e.reason = none ∧ e.state = r.state
  final : ∀ reason, r.reason = some reason → final reason →
    later = [] ∧ e.reason.isSome = true ∧ e.state = r.state

/-- **Lenient programs.**  The strict program does not get the inputs outside `keep`; the lenient one
makes nothing of them, does what the strict one does, and stops only where `final` says so. -/
theorem run_lenient {strict : ι → σ → Option (Turn ε ρ σ)} {lenient : ι → σ → Option (Turn δ κ σ)}
    {keep : ι → Bool} (final : ρ → Prop) (shown : δ → Option ε)
    (hskip : ∀ i s, keep i = false →
      ∃ outputs, lenient i s = some (.next outputs s) ∧ outputs.filterMap shown = [])
    (hnext : ∀ i s outputs s', strict i s = some (.next outputs s') →
      ∃ outputs', lenient i s = some (.next outputs' s') ∧ outputs'.filterMap shown = outputs)
    (hfinal : ∀ i s outputs reason s', strict i s = some (.stop outputs reason s') → final reason →
      ∃ outputs' reason', lenient i s = some (.stop outputs' reason' s') ∧
        outputs'.filterMap shown = outputs)
    (hgoesOn : ∀ i s outputs reason s', strict i s = some (.stop outputs reason s') →
      ¬final reason →
      ∃ outputs' s'', lenient i s = some (.next outputs' s'') ∧
        outputs'.filterMap shown = outputs)
    {is : List ι} {s : σ} {r : Ended ε ρ σ} {e : Ended δ κ σ}
    (hr : run strict (is.filter keep) s = some r) (he : run lenient is s = some e) :
    ∃ later, Overtakes final shown r e later := by
  induction is generalizing s r e with
  | nil =>
    cases hr
    cases he
    exact ⟨[], rfl, fun _ => ⟨rfl, rfl, rfl⟩, nofun⟩
  | cons i is ih =>
    -- a turn of the lenient program that goes on comes before what the rest shows
    have hafter {outputs : List δ} {s' : σ} (hturn : lenient i s = some (.next outputs s')) :
        ∃ e', run lenient is s' = some e' ∧ e = e'.after outputs := by
      rw [run, hturn] at he
      obtain ⟨e', he', rfl⟩ := Option.map_eq_some_iff.mp he
      exact ⟨e', he', rfl⟩
    cases hkeep : keep i with
    | false =>
      rw [List.filter_cons_of_neg (by simp [hkeep])] at hr
      obtain ⟨outputs, hturn, hnone⟩ := hskip i s hkeep
      obtain ⟨e', he', rfl⟩ := hafter hturn
      obtain ⟨later, hover⟩ := ih hr he'
      refine ⟨later, ?_, hover.unused, hover.final⟩
      rw [Ended.after, List.filterMap_append, hnone, List.nil_append, hover.split]
    | true =>
      rw [List.filter_cons_of_pos hkeep, run] at hr
      cases hstrict : strict i s with
      | none =>
        rw [hstrict] at hr
        cases hr
      | some t =>
        rw [hstrict] at hr
        cases t with
        | next outputs s' =>
          obtain ⟨r', hr', rfl⟩ := Option.map_eq_some_iff.mp hr
          obtain ⟨outputs', hturn, hshown⟩ := hnext _ _ _ _ hstrict
          obtain ⟨e', he', rfl⟩ := hafter hturn
          obtain ⟨later, hover⟩ := ih hr' he'
          refine ⟨later, ?_, hover.unused, hover.final⟩
          rw [Ended.after, Ended.after, List.filterMap_append, hshown, hover.split,
            List.append_assoc]
        | stop outputs reason s' =>
          cases hr
          by_cases hend : final reason
          · obtain ⟨outputs', reason', hturn, hshown⟩ := hfinal _ _ _ _ _ hstrict hend
            rw [run, hturn] at he
            cases he
            refine ⟨[], ?_, nofun, fun _ _ _ => ⟨rfl, rfl, rfl⟩⟩
            rw [List.append_nil, hshown]
          · obtain ⟨outputs', s'', hturn, hshown⟩ := hgoesOn _ _ _ _ _ hstrict hend
            obtain ⟨e', _, rfl⟩ := hafter hturn
            refine ⟨e'.outputs.filterMap shown, ?_, nofun, fun reason' hreason hend' => ?_⟩
            · rw [Ended.after, List.filterMap_append, hshown]
            · cases hreason
              exact absurd hend' hend

end Lenient

end StoppingRun
