import Mathlib.Data.List.Dedup
import Mathlib.Data.List.Induction
import TierRouting.Proofs.Event.Archive

/-! Which log is handed out for a path, after any calls. -/
namespace TierRouting

namespace LogCall

def isShutdown : LogCall → Bool
  | shutdown => true
  | _ => false

/-- The path that a log is asked for, without regard to its spelling. -/
def asked? : LogCall → Option (List Path.Component)
  | logFor _ path => some (Path.components path)
  | _ => none

/-- The calls since the logs were last closed all together. -/
def sinceShutdown (calls : List LogCall) : List LogCall :=
  (calls.reverse.takeWhile (!·.isShutdown)).reverse

theorem sinceShutdown_concat (calls : List LogCall) (c : LogCall) :
    sinceShutdown (calls ++ [c]) = if c.isShutdown then [] else sinceShutdown calls ++ [c] := by
  cases hc : c.isShutdown with
  | true => simp [sinceShutdown, hc]
  | false => simp [sinceShutdown, hc]

end LogCall

namespace Archive

open EventStore LogCall

variable {x : Archive} {directory : Place} {c : LogCall} {calls between : List LogCall} {i : Nat}
  {path : String} {running : Bool} {key : List Path.Component}

/-- The log that is handed out for a path, by its number. -/
def number (x : Archive) (running : Bool) (path : String) : Nat :=
  (x.store.handOut running path).2.1

theorem number_of_shared (h : x.store.sharedFor? path = some i) : x.number running path = i := by
  rcases handOut_cases x.store running path with ⟨k, hk, heq⟩ | ⟨hnone, -⟩
  · rw [number, heq]
    exact Option.some.inj (hk.symm.trans h)
  · rw [hnone] at h
    contradiction

/-- The log that is handed out is shared from then on. -/
theorem number_shared (directory : Place) (x : Archive) (running : Bool) (path : String) :
    (Path.components path, x.number running path) ∈
      (x.step directory (.logFor running path)).store.shared := by
  rcases handOut_cases x.store running path with ⟨k, hk, heq⟩ | ⟨-, notices, heq⟩
  · rw [number, step, heq]
    exact sharedFor?_eq_some hk
  · rw [number, step, heq]
    exact List.mem_append_right _ (List.mem_singleton_self _)

/-- A log stays shared until all of them are closed together. -/
theorem shared_step (h : (key, i) ∈ x.store.shared) (hc : c ≠ .shutdown) :
    (key, i) ∈ (x.step directory c).store.shared := by
  cases c with
  | logFor running path =>
    rcases handOut_cases x.store running path with ⟨k, -, heq⟩ | ⟨-, notices, heq⟩
    · rw [step, heq]
      exact h
    · rw [step, heq]
      exact List.mem_append_left _ h
  | record k e => simpa using h
  | writeNext k => simpa using h
  | close k => simpa using h
  | shutdown => contradiction

theorem shared_run (h : (key, i) ∈ x.store.shared) (hcalls : LogCall.shutdown ∉ calls) :
    (key, i) ∈ (run directory x calls).store.shared := by
  induction calls generalizing x with
  | nil => exact h
  | cons c calls ih =>
    have hc : c ≠ .shutdown := fun e => hcalls (by simp [e])
    exact ih (shared_step h hc) fun hmem => hcalls (List.mem_cons_of_mem c hmem)

/-- What is shared was shared before, or it is new. -/
theorem shared_of_step {key : List Path.Component}
    (h : (key, i) ∈ (x.step directory c).store.shared) :
    c ≠ .shutdown ∧ ((key, i) ∈ x.store.shared ∨ x.store.logs.length ≤ i) := by
  cases c with
  | logFor running path =>
    refine ⟨LogCall.noConfusion, ?_⟩
    rcases handOut_cases x.store running path with ⟨k, -, heq⟩ | ⟨-, notices, heq⟩
    · rw [step, heq] at h
      exact .inl h
    · rw [step, heq] at h
      refine (List.mem_append.mp h).imp_right fun h => ?_
      exact Nat.le_of_eq (Prod.mk.inj (List.mem_singleton.mp h)).2.symm
  | record k e => exact ⟨LogCall.noConfusion, .inl (by simpa using h)⟩
  | writeNext k => exact ⟨LogCall.noConfusion, .inl (by simpa using h)⟩
  | close k => exact ⟨LogCall.noConfusion, .inl (by simpa using h)⟩
  | shutdown => simp at h

/-- The log is there and no longer shared. -/
def IsRetired (x : Archive) (i : Nat) : Prop :=
  i < x.store.logs.length ∧ ∀ key, (key, i) ∉ x.store.shared

theorem isRetired_of_follows {y : Archive} (h : x.IsRetired i)
    (hxy : Follows x.store y.store) : y.IsRetired i :=
  ⟨hxy.length ▸ h.1, hxy.shared ▸ h.2⟩

theorem isRetired_shutdown (h : i < x.store.logs.length) :
    (x.step directory .shutdown).IsRetired i := by
  refine ⟨?_, by simp⟩
  exact lt_of_lt_of_eq h (follows_shutdown x.store x.files directory).length.symm

/-- A log that is no longer shared is not handed out again. -/
theorem isRetired_step (h : x.IsRetired i) (c : LogCall) : (x.step directory c).IsRetired i := by
  cases c with
  | logFor running path =>
    rcases handOut_cases x.store running path with ⟨k, -, heq⟩ | ⟨-, notices, heq⟩
    · rw [step, heq]
      exact h
    · obtain ⟨hlt, hfree⟩ := h
      rw [step, heq]
      refine ⟨by simpa using Nat.lt_succ_of_lt hlt, fun key hkey => ?_⟩
      rcases List.mem_append.mp hkey with hkey | hkey
      · exact hfree key hkey
      · have hi : i = x.store.logs.length := (Prod.mk.inj (List.mem_singleton.mp hkey)).2
        omega
  | record k e => exact isRetired_of_follows h (follows_record x.store k e)
  | writeNext k => exact isRetired_of_follows h (follows_writeNext x.store k x.files directory)
  | close k => exact isRetired_of_follows h (follows_close x.store k x.files directory)
  | shutdown => exact isRetired_shutdown h.1

theorem isRetired_run (h : x.IsRetired i) (calls : List LogCall) :
    (run directory x calls).IsRetired i := by
  induction calls generalizing x with
  | nil => exact h
  | cons c calls ih => exact ih (isRetired_step h c)

theorem number_ne_of_isRetired (h : x.IsRetired i) : x.number running path ≠ i := by
  rintro rfl
  exact (isRetired_step h (.logFor running path)).2 _ (number_shared [] x running path)

/-- A number is shared for one path only. -/
theorem key_eq_of_tidy {s : EventStore} {key' : List Path.Component} (h : s.Tidy)
    (hi : (key, i) ∈ s.shared) (hi' : (key', i) ∈ s.shared) : key = key' := by
  have hkey := h.named key i hi
  rw [h.named key' i hi'] at hkey
  exact (Option.some.inj hkey).symm

/-- Two askers get the same log exactly if they ask for the same path and no closing of all logs
comes between them. -/
theorem number_eq_iff (h : x.store.Tidy) (running : Bool) (path : String)
    (between : List LogCall) (running' : Bool) (path' : String) :
    x.number running path =
        (run directory x (.logFor running path :: between)).number running' path' ↔
      Path.components path = Path.components path' ∧ LogCall.shutdown ∉ between := by
  have hshared := number_shared directory x running path
  rw [run_cons]
  have htidy : (x.step directory (.logFor running path)).store.Tidy := tidy_step h _
  generalize x.step directory (.logFor running path) = y at hshared htidy ⊢
  have hstill {calls : List LogCall} (hnone : LogCall.shutdown ∉ calls) :
      (Path.components path, x.number running path) ∈ (run directory y calls).store.shared :=
    shared_run hshared hnone
  constructor
  · intro heq
    -- Had all logs been closed, the first one would not be handed out again.
    have hnone : LogCall.shutdown ∉ between := by
      intro hmem
      obtain ⟨before, later, rfl, hfirst⟩ := List.eq_append_cons_of_mem hmem
      have hretired : ((run directory y before).step directory .shutdown).IsRetired
          (x.number running path) :=
        isRetired_shutdown ((tidy_run htidy before).lt (hstill hfirst))
      rw [run_append, run_cons] at heq
      exact number_ne_of_isRetired (isRetired_run hretired later) heq.symm
    -- Otherwise it is shared for both paths, so they are one.
    refine ⟨?_, hnone⟩
    have hagain := number_shared directory (run directory y between) running' path'
    rw [← heq] at hagain
    refine key_eq_of_tidy (tidy_step (tidy_run htidy between) _) ?_ hagain
    exact shared_step (hstill hnone) LogCall.noConfusion
  · rintro ⟨hsame, hnone⟩
    have hfound := (tidy_run htidy between).sharedFor? (hsame ▸ hstill hnone)
    exact (number_of_shared hfound).symm

/-- A log that was handed out is there from then on. -/
theorem number_lt (directory : Place) (files : FileTree) (before : List LogCall) (running : Bool)
    (path : String) (between : List LogCall) : (after directory files before).number running path <
      (after directory files (before ++ .logFor running path :: between)).store.logs.length := by
  have htidy : ((after directory files before).step directory (.logFor running path)).store.Tidy :=
    tidy_step (tidy_after directory files before) _
  rw [after_append, run_cons]
  exact Nat.lt_of_lt_of_le (htidy.lt (number_shared directory _ running path))
    (length_le_run between)

theorem keys_step (c : LogCall) (key : List Path.Component) :
    key ∈ (x.step directory c).store.shared.map (·.1) ↔
      c.isShutdown = false ∧ (key ∈ x.store.shared.map (·.1) ∨ c.asked? = some key) := by
  cases c with
  | logFor running path =>
    rcases handOut_cases x.store running path with ⟨k, hk, heq⟩ | ⟨-, notices, heq⟩
    · have hkey : Path.components path ∈ x.store.shared.map (·.1) :=
        List.mem_map_of_mem (f := Prod.fst) (sharedFor?_eq_some hk)
      rw [step, heq]
      simp only [asked?, isShutdown, Option.some.injEq, true_and]
      exact ⟨.inl, fun h => h.elim id fun hsame => hsame ▸ hkey⟩
    · rw [step, heq, List.map_append, List.mem_append]
      simp [asked?, isShutdown, eq_comm (a := key)]
  | record k e => simp [asked?, isShutdown]
  | writeNext k => simp [asked?, isShutdown]
  | close k => simp [asked?, isShutdown]
  | shutdown => simp [isShutdown]

/-- The logs that are shared are those of the paths asked for since all logs were closed. -/
theorem keys_after (directory : Place) (files : FileTree) (calls : List LogCall)
    (key : List Path.Component) :
    key ∈ (after directory files calls).store.shared.map (·.1) ↔
      key ∈ (sinceShutdown calls).filterMap asked? := by
  induction calls using List.reverseRecOn with
  | nil => simp [after, run, sinceShutdown]
  | append_singleton calls c ih =>
    rw [after_concat, keys_step, ih, sinceShutdown_concat]
    cases hc : c.isShutdown with
    | true => simp
    | false => simp [List.filterMap_append]

theorem length_shared (directory : Place) (files : FileTree) (calls : List LogCall) :
    (after directory files calls).store.shared.length =
      ((sinceShutdown calls).filterMap asked?).dedup.length := by
  have hnodup := (tidy_after directory files calls).nodup
  rw [← List.length_map (f := Prod.fst)]
  refine List.Perm.length_eq ((List.perm_ext_iff_of_nodup hnodup (List.nodup_dedup _)).mpr ?_)
  intro key
  rw [keys_after, List.mem_dedup]

end Archive
end TierRouting
