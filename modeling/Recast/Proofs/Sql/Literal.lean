import Recast.Proofs.Sql.Scope

/-!
# Names between apostrophes

The name of a member stands in a query as a text between apostrophes. Whoever reads the query takes
a backslash as the escape of the next character, and the first apostrophe that is not escaped as the
end (`Expr.literal?`). The writer escapes apostrophes and nothing else.

Writing and reading fit together exactly on the names without a backslash
(`Expr.literal?_quoteText_iff`). One direction is an induction on the name. The other is a count: an
apostrophe or a backslash can be read only if it was escaped, and so took two characters
(`Expr.length_of_unescape?`), while the writer gave a backslash one.

So a name is safe in any query if it is a word, and in a plan that was compiled all names are
(`Plan.literal_exact`). In a plan that was made by hand or read from JSON, a name with a backslash
may end its literal early.
-/

namespace Recast

/-! ### Reading a literal -/

namespace Expr

/-- Reads to the end of a literal: the text, in which an escaped character stands for itself, and
what follows the closing apostrophe. -/
def unescape? : List Char → Option (List Char × List Char)
  | [] | ['\\'] => none
  | '\'' :: rest => some ([], rest)
  | '\\' :: c :: rest | c :: rest => (unescape? rest).map fun read ↦ (c :: read.1, read.2)

/-- Reads a literal from its opening apostrophe on: the text, and what follows. -/
def literal? : List Char → Option (List Char × List Char)
  | '\'' :: rest => unescape? rest
  | _ => none

/-- Any other character stands for itself. -/
theorem unescape?_cons {c : Char} (hquote : c ≠ '\'') (hescape : c ≠ '\\') (rest : List Char) :
    unescape? (c :: rest) = (unescape? rest).map fun read ↦ (c :: read.1, read.2) := by
  rw [unescape?]
  · exact fun h ↦ absurd h hescape
  · exact hquote
  · exact fun _ _ h ↦ absurd h hescape

/-- **An apostrophe or a backslash in the text took an escape**, and every other character one. -/
theorem length_of_unescape? {input text rest : List Char}
    (h : unescape? input = some (text, rest)) :
    text.length + text.count '\'' + text.count '\\' + rest.length + 1 ≤ input.length := by
  fun_induction unescape? input generalizing text rest with
  | case1 | case2 => cases h
  | case3 => cases h; simp
  | case4 c tail ih =>
    obtain ⟨⟨read, left⟩, hread, heq⟩ := Option.map_eq_some_iff.1 h
    obtain ⟨rfl, rfl⟩ := Prod.mk.inj heq
    have hle := ih hread
    -- What was escaped is not both an apostrophe and a backslash.
    rcases eq_or_ne c '\'' with rfl | hc
    · simp only [List.length_cons, List.count_cons_self,
        List.count_cons_of_ne (show '\'' ≠ '\\' by decide)]
      omega
    · simp only [List.length_cons, List.count_cons_of_ne hc, List.count_cons]
      split <;> omega
  | case5 c tail halone hquote hescape ih =>
    obtain ⟨⟨read, left⟩, hread, heq⟩ := Option.map_eq_some_iff.1 h
    obtain ⟨rfl, rfl⟩ := Prod.mk.inj heq
    have hle := ih hread
    have hc : c ≠ '\\' := by
      rintro rfl
      cases tail with
      | nil => exact halone rfl rfl
      | cons next rest => exact hescape next rest rfl rfl
    simp only [List.length_cons, List.count_cons_of_ne hc, List.count_cons_of_ne hquote]
    omega

/-- A text with a backslash before each apostrophe. -/
def escapeText (text : List Char) : List Char :=
  text.flatMap fun c ↦ if c = '\'' then ['\\', '\''] else [c]

theorem toList_quoteText (text : String) :
    (quoteText text).toList = '\'' :: (escapeText text.toList ++ ['\'']) := by
  simp [quoteText, escapeText]

/-- The writer gives an apostrophe two characters, and every other one its own. -/
theorem length_escapeText (text : List Char) :
    (escapeText text).length = text.length + text.count '\'' := by
  induction text with
  | nil => rfl
  | cons c rest ih =>
    rw [escapeText] at ih ⊢
    simp only [List.flatMap_cons, List.length_append, ih, List.length_cons, List.count_cons,
      beq_iff_eq]
    split <;> simp <;> omega

/-- A text without a backslash is read as it was written. -/
theorem unescape?_escapeText {text : List Char} (h : '\\' ∉ text) (rest : List Char) :
    unescape? (escapeText text ++ '\'' :: rest) = some (text, rest) := by
  induction text with
  | nil => rfl
  | cons c tail ih =>
    rw [List.mem_cons, not_or] at h
    obtain ⟨hc, htail⟩ := h
    rw [escapeText] at ih ⊢
    rw [List.flatMap_cons, List.append_assoc]
    by_cases hquote : c = '\''
    · rw [if_pos hquote, hquote]
      exact (congrArg (Option.map _) (ih htail)).trans rfl
    · rw [if_neg hquote, List.singleton_append, unescape?_cons hquote (Ne.symm hc), ih htail]
      rfl

/-- **A text is read as it was written exactly if it has no backslash**, whatever follows. -/
theorem literal?_quoteText_iff {text : String} {rest : List Char} :
    literal? ((quoteText text).toList ++ rest) = some (text.toList, rest) ↔ '\\' ∉ text.toList := by
  rw [toList_quoteText, List.cons_append, literal?, List.append_assoc, List.singleton_append]
  constructor
  · intro h
    have hlength := length_of_unescape? h
    rw [List.length_append, length_escapeText, List.length_cons] at hlength
    exact List.count_eq_zero.1 (by omega)
  · exact fun h ↦ unescape?_escapeText h rest

/-! ### Literals in a query -/

variable {part expr : Expr} {binders : List String}

/-- A member of a list stands in the list when it is written with separators. -/
theorem exists_intercalate_eq (separator : String) {item : String} {items : List String}
    (h : item ∈ items) :
    ∃ before after, separator.intercalate items = before ++ item ++ after := by
  induction items with
  | nil => cases h
  | cons first rest ih =>
    rcases rest with - | ⟨second, rest⟩
    · obtain rfl := List.mem_singleton.1 h
      exact ⟨"", "", by simp⟩
    · rw [String.intercalate_cons_cons]
      rcases List.mem_cons.1 h with rfl | hrest
      · exact ⟨"", separator ++ separator.intercalate (second :: rest), by
          rw [String.empty_append, String.append_assoc]⟩
      · obtain ⟨before, after, h⟩ := ih hrest
        exact ⟨first ++ separator ++ before, after, by rw [h]; simp only [String.append_assoc]⟩

theorem toSqlAll_eq_map (items : List Expr) : toSqlAll items = items.map toSql := by
  induction items with
  | nil => rfl
  | cons item rest ih => rw [toSqlAll, ih, List.map_cons]

/-- **A part of an expression stands in the text of the expression** as it is written by itself. -/
theorem Occurs.exists_toSql_eq (h : part.Occurs binders expr) :
    ∃ before after, expr.toSql = before ++ part.toSql ++ after := by
  -- What stands around the part grows by what is written around the operand that it is in.
  have grow : ∀ {inner : Expr} (opening closing : String),
      (∃ before after, inner.toSql = before ++ part.toSql ++ after) →
      ∃ before after, opening ++ inner.toSql ++ closing = before ++ part.toSql ++ after := by
    rintro inner opening closing ⟨before, after, h⟩
    exact ⟨opening ++ before, after ++ closing, by rw [h]; simp only [String.append_assoc]⟩
  induction h with
  | self => exact ⟨"", "", by simp⟩
  | @tupleElement _ operand name _ ih =>
    show ∃ before after, "tupleElement(" ++ operand.toSql ++ ", " ++ quoteText name ++ ")" =
      before ++ part.toSql ++ after
    simpa only [String.append_assoc] using
      grow "tupleElement(" (", " ++ quoteText name ++ ")") ih
  | isNull _ ih => exact grow "isNull(" ")" ih
  | @condition _ condition consequence alternative _ ih =>
    show ∃ before after, "if(" ++ condition.toSql ++ ", " ++ consequence.toSql ++ ", " ++
      alternative.toSql ++ ")" = before ++ part.toSql ++ after
    simpa only [String.append_assoc] using
      grow "if(" (", " ++ consequence.toSql ++ ", " ++ alternative.toSql ++ ")") ih
  | @consequence _ condition consequence alternative _ ih =>
    show ∃ before after, "if(" ++ condition.toSql ++ ", " ++ consequence.toSql ++ ", " ++
      alternative.toSql ++ ")" = before ++ part.toSql ++ after
    simpa only [String.append_assoc] using
      grow ("if(" ++ condition.toSql ++ ", ") (", " ++ alternative.toSql ++ ")") ih
  | @alternative _ condition consequence _ _ ih =>
    exact grow ("if(" ++ condition.toSql ++ ", " ++ consequence.toSql ++ ", ") ")" ih
  | @cast _ operand type _ ih =>
    show ∃ before after, "CAST(" ++ operand.toSql ++ " AS " ++ type ++ ")" =
      before ++ part.toSql ++ after
    simpa only [String.append_assoc] using grow "CAST(" (" AS " ++ type ++ ")") ih
  | @body _ binder body array _ ih =>
    show ∃ before after, "arrayMap(" ++ binder ++ " -> " ++ body.toSql ++ ", " ++ array.toSql ++
      ")" = before ++ part.toSql ++ after
    simpa only [String.append_assoc] using
      grow ("arrayMap(" ++ binder ++ " -> ") (", " ++ array.toSql ++ ")") ih
  | @array _ binder body _ _ ih =>
    exact grow ("arrayMap(" ++ binder ++ " -> " ++ body.toSql ++ ", ") ")" ih
  | @item _ items _ hitem _ ih =>
    obtain ⟨before, after, hbefore⟩ := exists_intercalate_eq ", "
      (List.mem_map_of_mem (f := toSql) hitem)
    show ∃ before after, "tuple(" ++ ", ".intercalate (toSqlAll items) ++ ")" =
      before ++ part.toSql ++ after
    rw [toSqlAll_eq_map, hbefore]
    simpa only [String.append_assoc] using grow ("tuple(" ++ before) (after ++ ")") ih

end Expr

/-! ### The names of a plan -/

/-- The steps of a typed path are fields of registered shapes. -/
theorem Path.Leads.namesField {registry : Registry} {sourceFields : List Field} {path : Path}
    {leaf : Field} {shape : String} (h : path.Leads registry sourceFields leaf)
    (hsource : registry.fields shape = .ok sourceFields) :
    ∀ step ∈ path.steps, registry.NamesField step.field := by
  cases h with
  | single hmem =>
    exact List.forall_mem_singleton.2 (Registry.namesField_of_mem hsource hmem)
  | member hmem _ hfields hmember =>
    exact List.forall_mem_cons.2 ⟨Registry.namesField_of_mem hsource hmem,
      List.forall_mem_singleton.2 (Registry.namesField_of_mem hfields hmember)⟩

/-- What a typed feed names are fields of registered shapes. -/
theorem Feed.Typed.namesField {registry : Registry} {sourceFields : List Field}
    {target : Field} {feed : Feed Plan} {shape : String}
    (h : feed.Typed registry sourceFields target)
    (hsource : registry.fields shape = .ok sourceFields) :
    ∀ name ∈ feed.sourceNames, registry.NamesField name := by
  cases h with
  | value hpath => exact List.forall_mem_map.2 (hpath.namesField hsource)
  | object hmem | optionalObject hmem | collection hmem =>
    exact List.forall_mem_singleton.2 (Registry.namesField_of_mem hsource hmem)

namespace Plan

/-- **The source fields that a compiled plan names are words.** -/
theorem isWord_of_namesSource {catalogue : Catalogue} {registry : Registry}
    (hregister : catalogue.register = .ok registry) {settings : BuildSettings}
    {source target : String} {plan : Plan}
    (hbuild : between registry settings source target = .ok plan) {name : String}
    (hname : plan.NamesSource name) : Text.isWord name = true := by
  have hclosed := Registry.closed_of_register hregister
  obtain ⟨node, hnode, a, ha, hname⟩ := hname
  have htyped := ofPair_wellTyped hclosed (ofPair_of_hasNode hbuild hnode)
  obtain ⟨sourceFields, targetFields, hsource, -, -, hlevel⟩ := htyped.level hclosed
  obtain ⟨target, -, -, hassignment⟩ := hlevel a ha
  exact (hassignment.feed.namesField hsource name hname).isWord hregister

/-- **The literal of a member is read as its name exactly if the name has no backslash.** It stands
in the text of the column, and what follows there, or anywhere else, makes no difference: the
reading stops at the apostrophe that was written last. In a compiled plan no name has a
backslash. -/
theorem literal_exact {plan : Plan} {query : SelectSource} {select : Select}
    (h : plan.toSelect query = .ok select) {column : ResultColumn}
    (hcolumn : column ∈ select.columns) {binders : List String} {operand : Expr} {name : String}
    (hoccurs : (Expr.tupleElement operand name).Occurs binders column.expression) :
    (∃ before after, column.expression.toSql =
      before ++ ("tupleElement(" ++ operand.toSql ++ ", " ++ Expr.quoteText name ++ ")") ++ after) ∧
    (∀ rest, Expr.literal? ((Expr.quoteText name).toList ++ rest) = some (name.toList, rest) ↔
      '\\' ∉ name.toList) ∧
    ∀ (catalogue : Catalogue) registry settings source target,
      catalogue.register = .ok registry → between registry settings source target = .ok plan →
      '\\' ∉ name.toList := by
  refine ⟨hoccurs.exists_toSql_eq, fun rest ↦ Expr.literal?_quoteText_iff, ?_⟩
  intro catalogue registry settings source target hregister hbuild
  have hname := (hoccurs.scoped (scoped_of_toSelect h hcolumn)).member_name
  exact Text.notMem_of_isWord (isWord_of_namesSource hregister hbuild hname) (by decide)

end Plan

namespace Blog

/-- The name of an author is read from the query for posts as it was written. -/
theorem authorName_literal :
    ∃ select, postPlan.toSelect {} = .ok select ∧ ∀ rest,
      Expr.literal? ((Expr.quoteText "Name").toList ++ rest) = some ("Name".toList, rest) := by
  have hselect : postPlan.toSelect {} = .ok ⟨postPlan.resultColumns (.row "src") "" [], {}⟩ := by
    with_unfolding_all rfl
  have hcolumn : ⟨Expr.guardedBy (.tupleElement (.column "src" "Author") "Name")
      (.column "src" "Author"), "AuthorName"⟩ ∈ postPlan.resultColumns (.row "src") "" [] :=
    .tail _ (.tail _ List.mem_cons_self)
  have hoccurs : (Expr.tupleElement (.column "src" "Author") "Name").Occurs []
      (Expr.guardedBy (.tupleElement (.column "src" "Author") "Name") (.column "src" "Author")) :=
    .alternative .self
  obtain ⟨-, hread, hcompiled⟩ := Plan.literal_exact hselect hcolumn hoccurs
  exact ⟨_, hselect, fun rest ↦ (hread rest).2 (hcompiled _ _ _ _ _ register_eq between_eq)⟩

end Blog

namespace Notes

/-- A note whose field has a backslash before an apostrophe. -/
def plan : Plan := ⟨"Note", "NoteView", 1, [
  ⟨"Text", .structural, .value ((Path.single "Body" false).push "it\\'s" false) .copy⟩]⟩

/-- The literal of the field ends at the apostrophe within its name: what is read lacks the end of
the name, and what follows is not what was written after the literal. -/
theorem name_escapes :
    ∃ select, plan.toSelect {} = .ok select ∧ ∃ column ∈ select.columns,
      (Expr.tupleElement (.column "src" "Body") "it\\'s").Occurs [] column.expression ∧
      Expr.quoteText "it\\'s" = "'it\\\\'s'" ∧
      Expr.literal? ((Expr.quoteText "it\\'s").toList ++ [')']) =
        some ("it\\".toList, "s')".toList) := by
  refine ⟨⟨[⟨.tupleElement (.column "src" "Body") "it\\'s", "Text"⟩], {}⟩, ?_, _,
    List.mem_cons_self, .self, ?_, ?_⟩
  · with_unfolding_all rfl
  · with_unfolding_all rfl
  · with_unfolding_all rfl

end Notes

end Recast
