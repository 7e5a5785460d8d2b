import Recast.Json.Reader
import Recast.Proofs.Json.Lexing

/-!
# Printed values are read back

The tokens of a value have one effect wherever they stand: the value is delivered to what is open
around it (`Reader.delivers_tokens`). The induction is over the value. The items after the first
are read by an induction over the rest of the array, the items before them being kept by the reader,
and so are the entries of an object, where distinct keys make every entry a new one.

With the tokens that the lexer finds in a printed value, this is the round trip of values
(`Json.parse?_pretty`).
-/

namespace Recast

namespace Json

/-- No value begins with the end of an array. -/
theorem exists_tokens_eq_cons (value : Json) :
    ∃ first rest, value.tokens = first :: rest ∧ first ≠ .closeBracket := by
  cases value <;> exact ⟨_, _, rfl, nofun⟩

end Json

namespace Reader

variable {stack : List Frame}

/-- The tokens deliver the value, whatever is open around it. -/
def Delivers (tokens : List JsonToken) (value : Json) : Prop :=
  ∀ stack, run ⟨stack, .value⟩ tokens = some (deliver value stack)

variable {value : Json} {items : List Json} {entries : List (String × Json)}

theorem Delivers.run_append {tokens : List JsonToken} (h : Delivers tokens value)
    (stack : List Frame) (rest : List JsonToken) :
    run ⟨stack, .value⟩ (tokens ++ rest) = (deliver value stack).run rest := by
  rw [Reader.run_append, h, Option.bind_some]

/-- The first item of an array is read as any other. -/
theorem run_firstItem (stack : List Frame) (value : Json) (rest : List JsonToken) :
    run ⟨stack, .firstItem⟩ (value.tokens ++ rest) =
      run ⟨.array [] :: stack, .value⟩ (value.tokens ++ rest) := by
  obtain ⟨first, more, htokens, hfirst⟩ := value.exists_tokens_eq_cons
  have hstep : step ⟨stack, .firstItem⟩ first = step ⟨.array [] :: stack, .value⟩ first := by
    cases first <;> first | rfl | exact absurd rfl hfirst
  rw [htokens, List.cons_append, run, run, List.foldlM_cons, List.foldlM_cons, hstep]

/-- The items after the first, where the items of `done` are read already. -/
theorem run_items (stack : List Frame) (done : List Json)
    (h : ∀ item ∈ items, Delivers item.tokens item) :
    run ⟨stack, .afterItem done⟩
        ((items.map Json.tokens).flatMap (.comma :: ·) ++ [.closeBracket]) =
      some (deliver (.arr (done.reverse ++ items)) stack) := by
  induction items generalizing done with
  | nil =>
    rw [List.append_nil]
    rfl
  | cons item rest ih =>
    obtain ⟨hitem, hrest⟩ := List.forall_mem_cons.1 h
    rw [List.map_cons, List.flatMap_cons, List.append_assoc]
    generalize hmore : (rest.map Json.tokens).flatMap (.comma :: ·) ++ [.closeBracket] = more
    calc run ⟨stack, .afterItem done⟩ (.comma :: (item.tokens ++ more))
      _ = run ⟨.array done :: stack, .value⟩ (item.tokens ++ more) := rfl
      _ = run ⟨stack, .afterItem (item :: done)⟩ more := hitem.run_append _ _
      _ = some (deliver (.arr ((item :: done).reverse ++ rest)) stack) := by
        rw [← hmore, ih _ hrest]
      _ = some (deliver (.arr (done.reverse ++ item :: rest)) stack) := by
        rw [List.reverse_cons, List.append_assoc, List.singleton_append]

/-- The entries after the first, where the entries of `done` are read already. -/
theorem run_entries (stack : List Frame) (done : List (String × Json))
    (hkeys : ((done ++ entries).map (·.1)).Nodup)
    (h : ∀ entry ∈ entries, Delivers entry.2.tokens entry.2) :
    run ⟨stack, .afterEntry done⟩
        ((entries.map fun e ↦ .str e.1 :: .colon :: e.2.tokens).flatMap (.comma :: ·) ++
          [.closeBrace]) =
      some (deliver (.obj (done ++ entries)) stack) := by
  induction entries generalizing done with
  | nil =>
    rw [List.append_nil]
    rfl
  | cons entry rest ih =>
    obtain ⟨key, value⟩ := entry
    obtain ⟨hvalue, hrest⟩ := List.forall_mem_cons.1 h
    have hnew : key ∉ done.map (·.1) := by
      rw [List.map_append, List.map_cons, List.nodup_append] at hkeys
      exact fun hmem ↦ hkeys.2.2 key hmem key List.mem_cons_self rfl
    have hsplit : done ++ (key, value) :: rest = (done ++ [(key, value)]) ++ rest := by simp
    rw [hsplit] at hkeys ⊢
    rw [List.map_cons, List.flatMap_cons, List.append_assoc]
    generalize hmore : (rest.map fun e ↦ .str e.1 :: .colon :: e.2.tokens).flatMap (.comma :: ·) ++
      [.closeBrace] = more
    calc run ⟨stack, .afterEntry done⟩ (.comma :: .str key :: .colon :: (value.tokens ++ more))
      _ = run ⟨.object done key :: stack, .value⟩ (value.tokens ++ more) := rfl
      _ = run ⟨stack, .afterEntry (insertEntry key value done)⟩ more := hvalue.run_append _ _
      _ = some (deliver (.obj ((done ++ [(key, value)]) ++ rest)) stack) := by
        rw [insertEntry_of_notMem hnew, ← hmore, ih _ hkeys hrest]

/-- **The tokens of a value deliver it.** -/
theorem delivers_tokens (h : value.Lossless) : Delivers value.tokens value := by
  induction h with
  | null | bool | int | str => exact fun _ ↦ rfl
  | @arr items _ ih =>
    intro stack
    rw [Json.tokens, Json.itemTokens_eq_map]
    cases items with
    | nil => rfl
    | cons first rest =>
      obtain ⟨hfirst, hrest⟩ := List.forall_mem_cons.1 ih
      rw [List.map_cons, JsonToken.separated, List.append_assoc]
      generalize hmore : (rest.map Json.tokens).flatMap (.comma :: ·) ++ [.closeBracket] = more
      calc run ⟨stack, .value⟩ (.openBracket :: (first.tokens ++ more))
        _ = run ⟨stack, .firstItem⟩ (first.tokens ++ more) := rfl
        _ = run ⟨.array [] :: stack, .value⟩ (first.tokens ++ more) := run_firstItem _ _ _
        _ = run ⟨stack, .afterItem [first]⟩ more := hfirst.run_append _ _
        _ = some (deliver (.arr (first :: rest)) stack) := by rw [← hmore, run_items _ _ hrest]; rfl
  | @obj entries hkeys _ ih =>
    intro stack
    rw [Json.tokens, Json.entryTokens_eq_map]
    cases entries with
    | nil => rfl
    | cons first rest =>
      obtain ⟨key, value⟩ := first
      obtain ⟨hvalue, hrest⟩ := List.forall_mem_cons.1 ih
      rw [List.map_cons, JsonToken.separated, List.append_assoc]
      generalize hmore : (rest.map fun e ↦ .str e.1 :: .colon :: e.2.tokens).flatMap
        (.comma :: ·) ++ [.closeBrace] = more
      calc run ⟨stack, .value⟩ (.openBrace :: .str key :: .colon :: (value.tokens ++ more))
        _ = run ⟨.object [] key :: stack, .value⟩ (value.tokens ++ more) := rfl
        _ = run ⟨stack, .afterEntry [(key, value)]⟩ more := hvalue.run_append _ _
        _ = some (deliver (.obj ((key, value) :: rest)) stack) := by
          rw [← hmore, run_entries _ _ hkeys hrest]; rfl

end Reader

/-- **A printed value is read back.** -/
theorem Json.parse?_pretty {value : Json} (h : value.Lossless) :
    Json.parse? value.pretty = some value := by
  simp [parse?, JsonToken.list?_pretty h, Reader.delivers_tokens h [], Reader.deliver]

end Recast
