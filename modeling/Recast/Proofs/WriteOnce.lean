import Mathlib.Data.Finset.Dedup
import Mathlib.Data.Finset.Card
import Recast.Shared

/-!
# Stores that are written once

The cache of plans and the memory of the matcher keep entries in the same way: what is first stored
under a key stays, as an object that is handed out again and again, and every new object has a
number of its own. Such a store is described by two logs. What was offered to it may be of many values
under a key, of which the first is stored (`KeepsFirst`); what it has handed out under a key is always
the same (`HandsOut`). Storing under a new key keeps both, and so does an offer under a key that is
there. The objects are different (`Numbered`), so that the length of the store is the number of the
keys that have one.

A store is used in runs (`Run`), and a statement about every operation of a run is one about the
operation that comes after any others. What is counted of a store depends on what was there before
each operation; `filterPast` picks such elements out of a history.
-/

namespace Recast

/-! ### Runs -/

namespace Run

variable {σ α β : Type} (step : σ → α → β × σ)

/-- The state after inputs, each taken in the state that the one before has left. -/
def final (state : σ) : List α → σ
  | [] => state
  | input :: rest => final (step state input).2 rest

/-- The outputs for inputs, each taken in the state that the one before has left. -/
def outputs (state : σ) : List α → List β
  | [] => []
  | input :: rest => (step state input).1 :: outputs (step state input).2 rest

theorem final_append (state : σ) (inputs more : List α) :
    final step state (inputs ++ more) = final step (final step state inputs) more := by
  induction inputs generalizing state with
  | nil => rfl
  | cons first inputs ih => rw [List.cons_append, final, ih, final]

/-- A run that goes on has its beginning as a run. -/
theorem outputs_append (state : σ) (inputs more : List α) :
    outputs step state (inputs ++ more) =
      outputs step state inputs ++ outputs step (final step state inputs) more := by
  induction inputs generalizing state with
  | nil => rfl
  | cons first inputs ih => rw [List.cons_append, outputs, ih, outputs, final, List.cons_append]

@[simp] theorem length_outputs (state : σ) (inputs : List α) :
    (outputs step state inputs).length = inputs.length := by
  induction inputs generalizing state with
  | nil => rfl
  | cons first inputs ih => rw [outputs, List.length_cons, ih, List.length_cons]

/-- **What every step keeps true of the state and of the inputs and outputs up to it is true after a
run.** The induction is on the inputs from the last one, which is the step that is taken. -/
theorem invariant (p : σ → List α → List β → Prop)
    (hstep : ∀ state inputs outputs input, p state inputs outputs →
      p (step state input).2 (inputs ++ [input]) (outputs ++ [(step state input).1]))
    {state : σ} (h : p state [] []) (inputs : List α) :
    p (final step state inputs) inputs (outputs step state inputs) := by
  induction inputs using List.reverseRecOn with
  | nil => exact h
  | append_singleton inputs input ih =>
    rw [final_append, outputs_append]
    exact hstep _ _ _ input ih

end Run

/-! ### One element more -/

section Past

variable {α β : Type}

@[simp] theorem filterMap_append_singleton (f : α → Option β) (l : List α) (a : α) :
    (l ++ [a]).filterMap f = l.filterMap f ++ (f a).toList := by
  rcases hf : f a with - | b <;> simp [hf]

/-- The elements of a list that pass a test of what stands before them. -/
def filterPast (p : List α → α → Bool) (l : List α) : List α :=
  (l.zipIdx.filter fun (a, i) ↦ p (l.take i) a).map (·.1)

/-- One more element is tested against all others, and the others as before. -/
theorem filterPast_append_singleton (p : List α → α → Bool) (l : List α) (a : α) :
    filterPast p (l ++ [a]) = filterPast p l ++ if p l a then [a] else [] := by
  have hbefore : ∀ q ∈ l.zipIdx, (l ++ [a]).take q.2 = l.take q.2 := by
    rintro ⟨b, i⟩ hq
    have hi : i < l.length := by simpa using (List.mem_zipIdx hq).2.1
    exact List.take_append_of_le_length hi.le
  have hfilter : (l.zipIdx.filter fun q ↦ p ((l ++ [a]).take q.2) q.1) =
      l.zipIdx.filter fun q ↦ p (l.take q.2) q.1 :=
    List.filter_congr fun q hq ↦ by rw [hbefore q hq]
  simp only [filterPast, List.zipIdx_append, List.filter_append, List.map_append, hfilter]
  congr 1
  by_cases ha : p l a <;> simp [ha]

/-- A test of what stands before an element, by way of a map. -/
theorem filterPast_map (p : List β → β → Bool) (f : α → β) (l : List α) :
    filterPast p (l.map f) = (filterPast (fun past a ↦ p (past.map f) (f a)) l).map f := by
  simp only [filterPast, List.zipIdx_map, List.filter_map, List.map_map, ← List.map_take]
  rfl

end Past

/-! ### Entries under keys -/

variable {κ α : Type} [BEq κ] [LawfulBEq κ]

theorem notMem_keys_iff {β : Type} {entries : List (κ × β)} {key : κ} :
    key ∉ entries.map (·.1) ↔ entries.lookup key = none := by
  simp only [List.mem_map, not_exists, not_and, List.lookup_eq_none_iff, bne_iff_ne, ne_eq]
  exact forall₂_congr fun entry _ ↦ not_congr eq_comm

theorem mem_of_lookup {β : Type} {entries : List (κ × β)} {key : κ} {value : β}
    (h : entries.lookup key = some value) : (key, value) ∈ entries := by
  obtain ⟨before, after, hentries, -⟩ := List.lookup_eq_some_iff.1 h
  simp [hentries]

/-- What is found after an entry was added is that entry, or was found before. -/
theorem lookup_cons_of_eq_some {β : Type} {entries : List (κ × β)} {key key' : κ} {value value' : β}
    (h : ((key, value) :: entries).lookup key' = some value') :
    key' = key ∧ value' = value ∨ entries.lookup key' = some value' := by
  rw [List.lookup_cons] at h
  split at h
  · rename_i hkey
    exact .inl ⟨eq_of_beq hkey, (Option.some.inj h).symm⟩
  · exact .inr h

/-- The keys are distinct and so are the objects, all of which were made before the next one. -/
structure Numbered (entries : List (κ × Shared α)) (next : Nat) : Prop where
  nodup : (entries.map (·.1)).Nodup
  serial_lt : ∀ entry ∈ entries, entry.2.serial < next
  serial_inj : ∀ entry ∈ entries, ∀ entry' ∈ entries,
    entry.2.serial = entry'.2.serial → entry = entry'

namespace Numbered

variable {entries : List (κ × Shared α)} {next : Nat} {key key' : κ}

omit [BEq κ] [LawfulBEq κ] in
theorem mono (h : Numbered entries next) {next' : Nat} (hle : next ≤ next') :
    Numbered entries next' :=
  { h with serial_lt := fun entry hentry ↦ (h.serial_lt entry hentry).trans_le hle }

/-- A new object may be stored under a new key. -/
theorem cons (h : Numbered entries next) (hmissing : entries.lookup key = none) (value : α) :
    Numbered ((key, ⟨next, value⟩) :: entries) (next + 1) := by
  refine ⟨List.nodup_cons.2 ⟨notMem_keys_iff.2 hmissing, h.nodup⟩, fun entry hentry ↦ ?_,
    fun entry hentry entry' hentry' hserial ↦ ?_⟩
  · rcases List.mem_cons.1 hentry with rfl | hentry
    · exact Nat.lt_succ_self _
    · exact (h.serial_lt entry hentry).trans (Nat.lt_succ_self _)
  · rcases List.mem_cons.1 hentry with rfl | hentry <;>
      rcases List.mem_cons.1 hentry' with rfl | hentry'
    · rfl
    · exact absurd hserial.symm (h.serial_lt entry' hentry').ne
    · exact absurd hserial (h.serial_lt entry hentry).ne
    · exact h.serial_inj entry hentry entry' hentry' hserial

/-- **There are as many entries as keys, of those that have one.** -/
theorem length_eq [DecidableEq κ] (h : Numbered entries next) {keys : List κ}
    (hkeys : ∀ key, entries.lookup key = none ↔ key ∉ keys) :
    entries.length = keys.toFinset.card := by
  have hset : (entries.map (·.1)).toFinset = keys.toFinset := by
    ext key
    rw [List.mem_toFinset, List.mem_toFinset, ← not_iff_not, notMem_keys_iff, hkeys]
  rw [← hset, List.toFinset_card_of_nodup h.nodup, List.length_map]

/-- **Two keys have one object exactly if they are one key.** -/
theorem serial_eq_iff (h : Numbered entries next) {object object' : Shared α}
    (hobject : entries.lookup key = some object) (hobject' : entries.lookup key' = some object') :
    object.serial = object'.serial ↔ key = key' := by
  constructor
  · intro hserial
    exact congrArg Prod.fst
      (h.serial_inj _ (mem_of_lookup hobject) _ (mem_of_lookup hobject') hserial)
  · rintro rfl
    cases hobject.symm.trans hobject'
    rfl

end Numbered

/-! ### Entries and the log of what was offered -/

/-- **The entries are what the log has**: whatever was handed out under a key is there still. -/
def HandsOut (entries log : List (κ × α)) : Prop :=
  ∀ key value, entries.lookup key = some value ↔ (key, value) ∈ log

namespace HandsOut

variable {entries log : List (κ × α)} {key : κ} {value : α}

omit [LawfulBEq κ] in
theorem nil : HandsOut ([] : List (κ × α)) [] := fun _ _ ↦ by simp

omit [LawfulBEq κ] in
/-- What is handed out again is there. -/
theorem again (h : HandsOut entries log) (hvalue : entries.lookup key = some value) :
    HandsOut entries (log ++ [(key, value)]) := by
  intro key' value'
  rw [h key' value', List.mem_append, List.mem_singleton, iff_self_or]
  rintro ⟨⟩
  exact (h key value).1 hvalue

/-- What is handed out under a new key is stored. -/
theorem store (h : HandsOut entries log) (hmissing : entries.lookup key = none) (value : α) :
    HandsOut ((key, value) :: entries) (log ++ [(key, value)]) := by
  intro key' value'
  rw [List.lookup_cons, List.mem_append, List.mem_singleton, ← h key' value']
  by_cases hkey : key' = key
  · simp [hkey, hmissing, eq_comm]
  · simp [hkey, beq_false_of_ne hkey]

/-- Under a key is what the log has first, and so whatever it has. -/
theorem lookup_eq (h : HandsOut entries log) (key : κ) : entries.lookup key = log.lookup key := by
  rcases hlog : log.lookup key with - | value
  · rw [Option.eq_none_iff_forall_ne_some]
    exact fun value hvalue ↦
      notMem_keys_iff.2 hlog (List.mem_map_of_mem (f := Prod.fst) ((h key value).1 hvalue))
  · exact (h key value).2 (mem_of_lookup hlog)

end HandsOut

/-- **The entries have what the log has first under each key**, as far as `f` shows it. -/
def KeepsFirst {β : Type} (f : α → β) (entries : List (κ × α)) (log : List (κ × β)) : Prop :=
  ∀ key, (entries.lookup key).map f = log.lookup key

namespace KeepsFirst

variable {β : Type} {f : α → β} {entries : List (κ × α)} {log : List (κ × β)} {key : κ} {value : α}

omit [LawfulBEq κ] in
theorem nil : KeepsFirst f ([] : List (κ × α)) [] := fun _ ↦ rfl

/-- Whatever is offered under a key that is there comes too late. -/
theorem again (h : KeepsFirst f entries log) (hvalue : entries.lookup key = some value)
    (offered : β) : KeepsFirst f entries (log ++ [(key, offered)]) := by
  intro key'
  rw [List.lookup_append, ← h key']
  by_cases hkey : key' = key
  · simp [hkey, hvalue]
  · simp [List.lookup_cons, beq_false_of_ne hkey]

/-- What is offered under a new key is stored. -/
theorem store (h : KeepsFirst f entries log) (hmissing : entries.lookup key = none) (value : α) :
    KeepsFirst f ((key, value) :: entries) (log ++ [(key, f value)]) := by
  intro key'
  rw [List.lookup_append, List.lookup_cons, ← h key']
  by_cases hkey : key' = key
  · simp [hkey, hmissing]
  · simp [List.lookup_cons, beq_false_of_ne hkey]

end KeepsFirst

end Recast
