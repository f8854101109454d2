import Metalnet.Metalbond

/-!
# Every realization runs

`AddRoute` and `RemoveRoute` run each of their realizations whatever the ones before returned.
On any dataplane the calls they issue are their realizations' own, so a failing call stops
nothing, and the error they return is nil exactly when each realization succeeded, and is
otherwise the errors of exactly the failed realizations, joined by newlines
(`runAll_aggregates`). A realization succeeds when it is skipped or when its call is answered
with success or with a status code on its ignore list.
-/

namespace Metalnet.Metalbond

variable {σ : Type}

theorem Outcome.err_eq_none_iff {ignore : List ErrorCode} {o : Outcome} :
    o.err ignore = none ↔ o = .ok ∨ ∃ code text, o = .status code text ∧ code ∈ ignore := by
  cases o <;> simp [Outcome.err]

namespace Effect

/-- A realization succeeded: it made no call and returned nil, or its call was answered with
success or with a status code on its ignore list. -/
def Succeeded : Effect → Option (Call × Outcome) → Prop
  | skip, _ => True
  | issue call ignore _, some (c, o) =>
    c = call ∧ (o = .ok ∨ ∃ code text, o = .status code text ∧ code ∈ ignore)
  | _, _ => False

theorem run_call (dp : Dataplane σ) (s : σ) (e : Effect) :
    (e.run dp s).2.1.map Prod.fst = e.call? := by
  cases e <;> rfl

theorem run_error (dp : Dataplane σ) (s : σ) (e : Effect) :
    (e.run dp s).2.2 = e.error (e.run dp s).2.1 := by
  cases e <;> rfl

theorem error_run_eq_none_iff (dp : Dataplane σ) (s : σ) (e : Effect) :
    e.error (e.run dp s).2.1 = none ↔ e.Succeeded (e.run dp s).2.1 := by
  cases e with
  | fail msg => simp [run, call?, error, Succeeded]
  | skip => simp [run, call?, error, Succeeded]
  | issue call ignore context =>
    simp [run, call?, error, Succeeded, Option.map_eq_none', Outcome.err_eq_none_iff]

end Effect

namespace MetalnetClient

theorem runEffects_length (dp : Dataplane σ) :
    ∀ (s : σ) (effects : List Effect), (runEffects dp s effects).2.1.length = effects.length
  | _, [] => rfl
  | s, e :: es => by simp [runEffects, runEffects_length dp _ es]

theorem runEffects_calls (dp : Dataplane σ) :
    ∀ (s : σ) (effects : List Effect),
      (runEffects dp s effects).2.1.filterMap (fun x => x.map Prod.fst) =
        effects.filterMap Effect.call?
  | _, [] => rfl
  | s, e :: es => by
    simp only [runEffects, List.filterMap_cons, Effect.run_call, runEffects_calls dp _ es]

theorem runEffects_errors (dp : Dataplane σ) :
    ∀ (s : σ) (effects : List Effect),
      (runEffects dp s effects).2.2 =
        (effects.zip (runEffects dp s effects).2.1).filterMap fun p => p.1.error p.2
  | _, [] => rfl
  | s, e :: es => by
    rw [runEffects, List.zip_cons_cons, List.filterMap_cons, ← Effect.run_error,
      ← runEffects_errors dp _ es]
    cases (e.run dp s).2.2 <;> rfl

/-- Each realization's error is nil exactly when it succeeded. -/
theorem runEffects_error_eq_none_iff (dp : Dataplane σ) :
    ∀ (s : σ) (effects : List Effect), ∀ p ∈ effects.zip (runEffects dp s effects).2.1,
      p.1.error p.2 = none ↔ p.1.Succeeded p.2
  | _, [], p, hp => by simp at hp
  | s, e :: es, p, hp => by
    rw [runEffects, List.zip_cons_cons, List.mem_cons] at hp
    rcases hp with rfl | hp
    · exact Effect.error_run_eq_none_iff dp s e
    · exact runEffects_error_eq_none_iff dp _ es p hp

/-- The dataplane state after a run depends only on the calls issued, in order. -/
theorem runEffects_state (dp : Dataplane σ) :
    ∀ (s : σ) (effects : List Effect),
      (runEffects dp s effects).1 =
        (effects.filterMap Effect.call?).foldl (fun s call => (dp.exec s call).1) s
  | _, [] => rfl
  | s, e :: es => by
    cases e <;> simp [runEffects, Effect.run, Effect.call?, runEffects_state dp _ es]

theorem joinErrors_eq_none_iff {errStrs : List String} :
    joinErrors errStrs = none ↔ errStrs = [] := by
  unfold joinErrors; split <;> simp_all

theorem joinErrors_eq_some {errStrs : List String} {m : String}
    (h : joinErrors errStrs = some m) : m = "\n".intercalate errStrs := by
  unfold joinErrors at h; split at h <;> simp_all

end MetalnetClient

/-- What a run of realizations owes its caller: its calls are the realizations' own, whatever
the dataplane answers; every realization ran, and has an error exactly when it failed; and the
run's error is nil exactly when each realization succeeded, and otherwise joins the errors of
those that failed. -/
structure Aggregates (effects : List Effect) (r : MetalnetClient.Run σ) : Prop where
  calls : r.calls = effects.filterMap Effect.call?
  length : r.exchanges.length = effects.length
  error_eq_none_iff : ∀ p ∈ effects.zip r.exchanges, p.1.error p.2 = none ↔ p.1.Succeeded p.2
  err_eq_none_iff : r.err = none ↔ ∀ p ∈ effects.zip r.exchanges, p.1.Succeeded p.2
  err_eq_some : ∀ m, r.err = some m →
    m = "\n".intercalate ((effects.zip r.exchanges).filterMap fun p => p.1.error p.2)

/-- The dataplane on which every call succeeds. -/
def Dataplane.succeeding : Dataplane Unit :=
  ⟨fun _ _ => ((), .ok), fun _ _ => .ok []⟩

namespace MetalnetClient

open MetalnetClient

theorem runAll_aggregates (dp : Dataplane σ) (s : σ) (effects : List Effect) :
    Aggregates effects (runAll dp s effects) where
  calls := runEffects_calls dp s effects
  length := runEffects_length dp s effects
  error_eq_none_iff := runEffects_error_eq_none_iff dp s effects
  err_eq_none_iff := by
    simp only [runAll, joinErrors_eq_none_iff, runEffects_errors, List.filterMap_eq_nil_iff]
    exact forall₂_congr fun p hp => runEffects_error_eq_none_iff dp s effects p hp
  err_eq_some m h := by
    rw [joinErrors_eq_some h, runEffects_errors]
    rfl

/-- The state after a run is the calls it issued applied in order. -/
theorem runAll_state (dp : Dataplane σ) (s : σ) (effects : List Effect) :
    (runAll dp s effects).state =
      (runAll dp s effects).calls.foldl (fun s call => (dp.exec s call).1) s := by
  rw [(runAll_aggregates dp s effects).calls]; exact runEffects_state dp s effects

end MetalnetClient

end Metalnet.Metalbond
