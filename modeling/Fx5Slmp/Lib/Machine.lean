import Mathlib.Data.List.Basic

/-!
# Input/output machines in lock step

A machine answers each input with an output and a new state, or has no result.  Two machines
that answer every input alike, from related states, answer every list of inputs alike.

* `run` — a list of inputs one after the other, with the list of outputs;
* `run_lockstep` — **simulation rule** for whole runs.
-/

set_option autoImplicit false

namespace Machine

variable {σ τ ι ο : Type}

/-- The inputs one after the other; the outputs are in the order of the inputs. -/
def run (step : ι → σ → Option (ο × σ)) : List ι → σ → Option (List ο × σ)
  | [], s => some ([], s)
  | i :: is, s => (step i s).bind fun r => (run step is r.2).map fun rs => (r.1 :: rs.1, rs.2)

theorem run_cons {step : ι → σ → Option (ο × σ)} {i : ι} {s s' : σ} {o : ο}
    (h : step i s = some (o, s')) (is : List ι) :
    run step (i :: is) s = (run step is s').map fun rs => (o :: rs.1, rs.2) := by
  rw [run, h, Option.bind_some]

/-- **Simulation rule.**  Related states answer every list of admissible inputs alike, and
stay related. -/
theorem run_lockstep {step₁ : ι → σ → Option (ο × σ)} {step₂ : ι → τ → Option (ο × τ)}
    {R : σ → τ → Prop} {ok : ι → Prop}
    (hstep : ∀ i s t, ok i → R s t → ∃ o s' t',
      step₁ i s = some (o, s') ∧ step₂ i t = some (o, t') ∧ R s' t') :
    ∀ (is : List ι) {s : σ} {t : τ}, (∀ i ∈ is, ok i) → R s t → ∃ os s' t',
      run step₁ is s = some (os, s') ∧ run step₂ is t = some (os, t') ∧ R s' t'
  | [], s, t, _, hR => ⟨[], s, t, rfl, rfl, hR⟩
  | i :: is, s, t, hok, hR => by
    obtain ⟨o, s₁, t₁, h₁, h₂, hR₁⟩ := hstep i s t (hok i (List.mem_cons_self ..)) hR
    obtain ⟨os, s', t', hs, ht, hR'⟩ :=
      run_lockstep hstep is (fun j hj => hok j (List.mem_cons_of_mem i hj)) hR₁
    refine ⟨o :: os, s', t', ?_, ?_, hR'⟩
    · rw [run_cons h₁, hs, Option.map_some]
    · rw [run_cons h₂, ht, Option.map_some]

end Machine
