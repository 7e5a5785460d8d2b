import Recast.Proofs.Sql.Literal

/-!
# Expressions in a query are unambiguous

Different expressions are written differently (`Expr.toSql_unambiguous`), as far as the names in
them are words, columns apart, which may have any name. No reader of expressions is needed for this.
An expression at the front of a text is determined together with the rest of the text
(`Expr.WellNamed.determined`), and this goes by induction on the expression, one operand after the
other.

What carries the induction is where an expression may end: before a comma, a parenthesis, a blank, or
at the end of the text (`Stops`). So the word that an expression begins with is determined, as no word
goes on there, and so is what stands behind it: a dot behind the table of a column, a parenthesis
behind the name of an operation, and nothing behind a parameter or null, which is why no parameter
may be called `NULL`. The word and the next character tell the kind of the expression
(`Expr.WellNamed.kind_of_opening`), and the kind tells what to read next.

The form that lowering gives to expressions is known from the grammar of lowered expressions, and in a
compiled plan their names are words (`Expr.Compiled.wellNamed`).
-/

namespace Recast

/-! ### Reading from the front -/

/-- The text goes on as it may behind an expression. -/
inductive Stops : List Char → Prop
  | nil : Stops []
  | parenthesis {rest : List Char} : Stops (')' :: rest)
  | comma {rest : List Char} : Stops (',' :: rest)
  | blank {rest : List Char} : Stops (' ' :: rest)

namespace Text

/-- No word goes on at the front of the text. -/
def NoWordChar (rest : List Char) : Prop := ∀ c ∈ rest.head?, isWordChar c = false

theorem noWordChar_cons {c : Char} (h : isWordChar c = false) (rest : List Char) :
    NoWordChar (c :: rest) := by
  rintro _ ⟨⟩
  exact h

/-- The word characters at the front of a text are those of the word, if it does not go on there. -/
theorem takeWhile_word_append {word : String} {rest : List Char} (hword : isWord word = true)
    (hrest : NoWordChar rest) : (word.toList ++ rest).takeWhile isWordChar = word.toList := by
  rw [List.takeWhile_append_of_pos (List.all_eq_true.1 (all_isWordChar_of_isWord hword))]
  cases rest with
  | nil => simp
  | cons c rest => rw [List.takeWhile_cons_of_neg (by simp [hrest c rfl]), List.append_nil]

/-- **A word at the front of a text is determined with the rest**, if it does not go on there. -/
theorem word_append_inj {word other : String} {rest more : List Char} (hword : isWord word = true)
    (hother : isWord other = true) (hrest : NoWordChar rest) (hmore : NoWordChar more)
    (h : word.toList ++ rest = other.toList ++ more) : word = other ∧ rest = more := by
  have hlist : word.toList = other.toList := by
    rw [← takeWhile_word_append hword hrest, h, takeWhile_word_append hother hmore]
  rw [hlist] at h
  exact ⟨String.toList_inj.1 hlist, List.append_cancel_left h⟩

end Text

/-- An operand ends where the next one is separated from it. -/
theorem stops_separator {rest : List Char} : Stops ([',', ' '] ++ rest) := .comma

theorem Stops.head?_ne_backtick {rest : List Char} (h : Stops rest) : rest.head? ≠ some '`' := by
  cases h <;> simp

theorem Stops.noWordChar {rest : List Char} (h : Stops rest) : Text.NoWordChar rest := by
  cases h with
  | nil => exact nofun
  | parenthesis | comma | blank => exact Text.noWordChar_cons (by decide) _

namespace Expr

/-- Reads to the end of a name between backticks: the name, in which two backticks stand for one, and
what follows the closing backtick. -/
def unquote? : List Char → Option (List Char × List Char)
  | [] => none
  | '`' :: '`' :: rest => (unquote? rest).map fun read ↦ ('`' :: read.1, read.2)
  | '`' :: rest => some ([], rest)
  | c :: rest => (unquote? rest).map fun read ↦ (c :: read.1, read.2)

theorem unquote?_flatMap (name : List Char) {rest : List Char} (h : rest.head? ≠ some '`') :
    unquote? ((name.flatMap fun c ↦ if c = '`' then ['`', '`'] else [c]) ++ '`' :: rest) =
      some (name, rest) := by
  induction name with
  | nil =>
    rw [List.flatMap_nil, List.nil_append, unquote?]
    rintro more rfl
    exact h rfl
  | cons c name ih =>
    rw [List.flatMap_cons, List.append_assoc]
    by_cases hc : c = '`'
    · rw [if_pos hc, hc]
      exact (congrArg (Option.map _) ih).trans rfl
    · rw [if_neg hc, List.singleton_append, unquote?, ih]
      · rfl
      · exact fun _ hc' ↦ absurd hc' hc
      · exact hc

/-- **A name between backticks is read as it was written**, whatever follows but a backtick. -/
theorem unquote?_quoteName (name : String) {rest : List Char} (h : rest.head? ≠ some '`') :
    ∃ inside, (quoteName name).toList ++ rest = '`' :: inside ∧
      unquote? inside = some (name.toList, rest) :=
  ⟨_, by simp [quoteName], unquote?_flatMap name.toList h⟩

theorem quoteName_append_inj {name other : String} {rest more : List Char}
    (hrest : rest.head? ≠ some '`') (hmore : more.head? ≠ some '`')
    (h : (quoteName name).toList ++ rest = (quoteName other).toList ++ more) :
    name = other ∧ rest = more := by
  obtain ⟨inside, hinside, hread⟩ := unquote?_quoteName name hrest
  obtain ⟨_, hinside', hread'⟩ := unquote?_quoteName other hmore
  obtain rfl := (List.cons.inj (hinside.symm.trans (h.trans hinside'))).2
  obtain ⟨hname, rfl⟩ := Prod.mk.inj (Option.some.inj (hread.symm.trans hread'))
  exact ⟨String.toList_inj.1 hname, rfl⟩

theorem quoteText_append_inj {name other : String} {rest more : List Char}
    (hname : Text.isWord name = true) (hother : Text.isWord other = true)
    (h : (quoteText name).toList ++ rest = (quoteText other).toList ++ more) :
    name = other ∧ rest = more := by
  have hread : ∀ {name : String} {rest : List Char}, Text.isWord name = true →
      literal? ((quoteText name).toList ++ rest) = some (name.toList, rest) := fun hname ↦
    literal?_quoteText_iff.2 (Text.notMem_of_isWord hname (by decide))
  have hboth : literal? ((quoteText name).toList ++ rest) = _ := hread hname
  rw [h, hread hother] at hboth
  obtain ⟨heq, rfl⟩ := Prod.mk.inj (Option.some.inj hboth)
  exact ⟨String.toList_inj.1 heq.symm, rfl⟩

/-! ### How an expression begins -/

/-- The kinds of expressions. -/
inductive Kind where
  | column
  | parameter
  | tupleElement
  | isNull
  | ifThenElse
  | cast
  | arrayMap
  | tuple
  | null

/-- The kind of an expression. -/
def kind : Expr → Kind
  | .column _ _ => .column
  | .parameter _ => .parameter
  | .tupleElement _ _ => .tupleElement
  | .isNull _ => .isNull
  | .ifThenElse _ _ _ => .ifThenElse
  | .cast _ _ => .cast
  | .arrayMap _ _ _ => .arrayMap
  | .tuple _ => .tuple
  | .null => .null

/-- The word that an expression begins with. -/
def word : Expr → String
  | .column table _ => table
  | .parameter name => name
  | .tupleElement _ _ => "tupleElement"
  | .isNull _ => "isNull"
  | .ifThenElse _ _ _ => "if"
  | .cast _ _ => "CAST"
  | .arrayMap _ _ _ => "arrayMap"
  | .tuple _ => "tuple"
  | .null => "NULL"

/-- What stands behind an item of a tuple: the other items, the closing parenthesis, and what follows
the tuple. -/
def moreItems (rest : List Char) (items : List Expr) : List Char :=
  items.foldr (fun item text ↦ [',', ' '] ++ (item.toSql.toList ++ text)) (')' :: rest)

/-- What stands behind the word, if `rest` follows the expression. -/
def behind (rest : List Char) : Expr → List Char
  | .column _ name => '.' :: ((quoteName name).toList ++ rest)
  | .parameter _ | .null => rest
  | .tupleElement operand name =>
    '(' :: (operand.toSql.toList ++ ([',', ' '] ++ ((quoteText name).toList ++ ')' :: rest)))
  | .isNull operand => '(' :: (operand.toSql.toList ++ ')' :: rest)
  | .ifThenElse condition consequence alternative =>
    '(' :: (condition.toSql.toList ++ ([',', ' '] ++ (consequence.toSql.toList ++
      ([',', ' '] ++ (alternative.toSql.toList ++ ')' :: rest)))))
  | .cast operand type =>
    '(' :: (operand.toSql.toList ++ ([' ', 'A', 'S', ' '] ++ (type.toList ++ ')' :: rest)))
  | .arrayMap binder body array =>
    '(' :: (binder.toList ++ ([' ', '-', '>', ' '] ++ (body.toSql.toList ++
      ([',', ' '] ++ (array.toSql.toList ++ ')' :: rest)))))
  | .tuple [] => '(' :: ')' :: rest
  | .tuple (item :: items) => '(' :: (item.toSql.toList ++ moreItems rest items)

theorem intercalate_toSqlAll (item : Expr) (items : List Expr) (rest : List Char) :
    (", ".intercalate (toSqlAll (item :: items))).toList ++ ')' :: rest =
      item.toSql.toList ++ moreItems rest items := by
  induction items generalizing item with
  | nil => simp [toSqlAll, moreItems]
  | cons next items ih =>
    have hnext := ih next
    rw [toSqlAll] at hnext ⊢
    rw [toSqlAll, String.intercalate_cons_cons]
    simp only [String.toList_append, List.append_assoc, hnext]
    rfl

/-- An expression is written as its word and what stands behind it. -/
theorem toSql_append (expr : Expr) (rest : List Char) :
    expr.toSql.toList ++ rest = expr.word.toList ++ expr.behind rest := by
  cases expr with
  | column table name =>
    show (table ++ "." ++ quoteName name).toList ++ rest = _
    simp [word, behind]
  | parameter | null => rfl
  | tupleElement operand name =>
    show ("tupleElement(" ++ operand.toSql ++ ", " ++ quoteText name ++ ")").toList ++ rest = _
    simp [word, behind]
  | isNull operand =>
    show ("isNull(" ++ operand.toSql ++ ")").toList ++ rest = _
    simp [word, behind]
  | ifThenElse condition consequence alternative =>
    show ("if(" ++ condition.toSql ++ ", " ++ consequence.toSql ++ ", " ++ alternative.toSql ++
      ")").toList ++ rest = _
    simp [word, behind]
  | cast operand type =>
    show ("CAST(" ++ operand.toSql ++ " AS " ++ type ++ ")").toList ++ rest = _
    simp [word, behind]
  | arrayMap binder body array =>
    show ("arrayMap(" ++ binder ++ " -> " ++ body.toSql ++ ", " ++ array.toSql ++ ")").toList ++
      rest = _
    simp [word, behind]
  | tuple items =>
    show ("tuple(" ++ ", ".intercalate (toSqlAll items) ++ ")").toList ++ rest = _
    cases items with
    | nil => simp [toSqlAll, word, behind]
    | cons item items => simp [word, behind, ← intercalate_toSqlAll]

/-- The kind of expression that begins with a word and goes on with a text. -/
def Kind.ofOpening (word : String) : List Char → Kind
  | '.' :: _ => .column
  | '(' :: _ =>
    match word with
    | "tupleElement" => .tupleElement
    | "isNull" => .isNull
    | "if" => .ifThenElse
    | "CAST" => .cast
    | "arrayMap" => .arrayMap
    | _ => .tuple
  | _ => if word = "NULL" then .null else .parameter

/-! ### Expressions that are read back -/

/-- **The names in the expression are words**, columns apart, which may have any name. No parameter is
called `NULL`, and casts are to the column types of enum values. -/
inductive WellNamed : Expr → Prop
  | column {table name : String} (htable : Text.isWord table = true) :
      WellNamed (.column table name)
  | parameter {name : String} (hname : Text.isWord name = true) (hnull : name ≠ "NULL") :
      WellNamed (.parameter name)
  | tupleElement {operand : Expr} {name : String} (hoperand : WellNamed operand)
      (hname : Text.isWord name = true) : WellNamed (.tupleElement operand name)
  | isNull {operand : Expr} (hoperand : WellNamed operand) : WellNamed (.isNull operand)
  | ifThenElse {condition consequence alternative : Expr} (hcondition : WellNamed condition)
      (hconsequence : WellNamed consequence) (halternative : WellNamed alternative) :
      WellNamed (.ifThenElse condition consequence alternative)
  | cast {operand : Expr} {type : String} (hoperand : WellNamed operand)
      (htype : type = "Int64" ∨ type = "Nullable(Int64)") : WellNamed (.cast operand type)
  | arrayMap {binder : String} {body array : Expr} (hbinder : Text.isWord binder = true)
      (hbody : WellNamed body) (harray : WellNamed array) :
      WellNamed (.arrayMap binder body array)
  | tuple {items : List Expr} (hitems : ∀ item ∈ items, WellNamed item) : WellNamed (.tuple items)
  | null : WellNamed .null

variable {expr : Expr} {rest : List Char}

theorem WellNamed.isWord_word (h : expr.WellNamed) : Text.isWord expr.word = true := by
  cases h with
  | column htable => exact htable
  | parameter hname => exact hname
  | tupleElement | isNull | ifThenElse | cast | arrayMap | tuple | null =>
    rw [word]
    decide

/-- **The word of an expression and the character behind it tell its kind.** -/
theorem WellNamed.kind_of_opening (h : expr.WellNamed) (hrest : Stops rest) :
    Kind.ofOpening expr.word (expr.behind rest) = expr.kind := by
  cases h with
  | column | tupleElement | isNull | ifThenElse | cast | arrayMap => rfl
  | @tuple items => cases items <;> rfl
  | null => cases hrest <;> rfl
  | parameter _ hnull => cases hrest <;> exact if_neg hnull

theorem noWordChar_behind (expr : Expr) (hrest : Stops rest) :
    Text.NoWordChar (expr.behind rest) := by
  cases expr with
  | column | tupleElement | isNull | ifThenElse | cast | arrayMap =>
    exact Text.noWordChar_cons (by decide) _
  | tuple items => cases items <;> exact Text.noWordChar_cons (by decide) _
  | parameter | null => exact hrest.noWordChar

/-- **The expression is determined where it stands**, with the text behind it: no other expression can
be read there. -/
def Determined (expr : Expr) : Prop :=
  ∀ {other : Expr} {rest more : List Char}, other.WellNamed → Stops rest → Stops more →
    expr.toSql.toList ++ rest = other.toSql.toList ++ more → expr = other ∧ rest = more

/-- Two expressions at the front of a text begin with the same word and go on in the same way, so they
are of the same kind. It is enough to go on from there. -/
theorem WellNamed.determined_of (h : expr.WellNamed)
    (hbehind : ∀ {other : Expr} {rest more : List Char}, other.WellNamed → Stops rest → Stops more →
      expr.kind = other.kind → expr.word = other.word → expr.behind rest = other.behind more →
      expr = other ∧ rest = more) : expr.Determined := by
  intro other rest more hother hrest hmore heq
  rw [toSql_append, toSql_append] at heq
  obtain ⟨hword, heq⟩ := Text.word_append_inj h.isWord_word hother.isWord_word
    (noWordChar_behind expr hrest) (noWordChar_behind other hmore) heq
  refine hbehind hother hrest hmore ?_ hword heq
  rw [← h.kind_of_opening hrest, hword, heq, hother.kind_of_opening hmore]

/-- No expression begins with a parenthesis. -/
theorem WellNamed.append_ne_parenthesis (h : expr.WellNamed) (rest more : List Char) :
    expr.toSql.toList ++ rest ≠ ')' :: more := by
  have hword := h.isWord_word
  rw [toSql_append]
  unfold Text.isWord at hword
  split at hword
  · cases hword
  · rename_i c word hlist
    rw [hlist]
    intro heq
    obtain rfl := (List.cons.inj heq).1
    cases hword

theorem stops_moreItems (rest : List Char) (items : List Expr) : Stops (moreItems rest items) := by
  cases items with
  | nil => exact .parenthesis
  | cons => exact .comma

/-- **The items of a tuple are determined**, with their number, if each of them is. -/
theorem moreItems_inj {items others : List Expr} {rest more : List Char}
    (hitems : ∀ item ∈ items, item.Determined) (hothers : ∀ other ∈ others, other.WellNamed)
    (h : moreItems rest items = moreItems more others) : items = others ∧ rest = more := by
  induction items generalizing others with
  | nil =>
    cases others with
    | nil => exact ⟨rfl, (List.cons.inj h).2⟩
    | cons => cases (List.cons.inj h).1
  | cons item items ih =>
    cases others with
    | nil => cases (List.cons.inj h).1
    | cons other others =>
      rw [List.forall_mem_cons] at hitems hothers
      obtain ⟨rfl, hrest⟩ := hitems.1 hothers.1 (stops_moreItems rest items)
        (stops_moreItems more others) (List.append_cancel_left h)
      obtain ⟨rfl, rfl⟩ := ih hitems.2 hothers.2 hrest
      exact ⟨rfl, rfl⟩

/-- The column types of enum values are determined, as one of them begins otherwise. -/
theorem enumColumnType_append_inj {type other : String} {rest more : List Char}
    (htype : type = "Int64" ∨ type = "Nullable(Int64)")
    (hother : other = "Int64" ∨ other = "Nullable(Int64)")
    (h : type.toList ++ ')' :: rest = other.toList ++ ')' :: more) : type = other ∧ rest = more := by
  rcases htype with rfl | rfl <;> rcases hother with rfl | rfl
  · exact ⟨rfl, (List.cons.inj (List.append_cancel_left h)).2⟩
  · cases (List.cons.inj h).1
  · cases (List.cons.inj h).1
  · exact ⟨rfl, (List.cons.inj (List.append_cancel_left h)).2⟩

/-- **A well-named expression is determined where it stands.** -/
theorem WellNamed.determined (h : expr.WellNamed) : expr.Determined := by
  induction h with
  | column htable =>
    refine (WellNamed.column htable).determined_of fun hother hrest hmore hkind hword h ↦ ?_
    cases hother with
    | column =>
      -- A backtick behind the name would be read as a part of it.
      obtain ⟨rfl, rfl⟩ :=
        quoteName_append_inj hrest.head?_ne_backtick hmore.head?_ne_backtick (List.cons.inj h).2
      obtain rfl : _ = _ := hword
      exact ⟨rfl, rfl⟩
    | _ => cases hkind
  | parameter hname hnull =>
    refine (WellNamed.parameter hname hnull).determined_of fun hother _ _ hkind hword h ↦ ?_
    cases hother with
    | parameter =>
      obtain rfl : _ = _ := hword
      exact ⟨rfl, h⟩
    | _ => cases hkind
  | tupleElement hoperand hname ih =>
    refine (hoperand.tupleElement hname).determined_of fun hother _ _ hkind _ h ↦ ?_
    cases hother with
    | tupleElement hoperand' hname' =>
      obtain ⟨rfl, hmember⟩ :=
        ih hoperand' stops_separator stops_separator (List.cons.inj h).2
      obtain ⟨rfl, hend⟩ := quoteText_append_inj hname hname' (List.append_cancel_left hmember)
      exact ⟨rfl, (List.cons.inj hend).2⟩
    | _ => cases hkind
  | isNull hoperand ih =>
    refine hoperand.isNull.determined_of fun hother _ _ hkind _ h ↦ ?_
    cases hother with
    | isNull hoperand' =>
      obtain ⟨rfl, hend⟩ := ih hoperand' .parenthesis .parenthesis (List.cons.inj h).2
      exact ⟨rfl, (List.cons.inj hend).2⟩
    | _ => cases hkind
  | ifThenElse hcondition hconsequence halternative ihcondition ihconsequence ihalternative =>
    refine (hcondition.ifThenElse hconsequence halternative).determined_of
      fun hother _ _ hkind _ h ↦ ?_
    cases hother with
    | ifThenElse hcondition' hconsequence' halternative' =>
      obtain ⟨rfl, hthen⟩ :=
        ihcondition hcondition' stops_separator stops_separator (List.cons.inj h).2
      obtain ⟨rfl, helse⟩ := ihconsequence hconsequence' stops_separator stops_separator
        (List.append_cancel_left hthen)
      obtain ⟨rfl, hend⟩ :=
        ihalternative halternative' .parenthesis .parenthesis (List.append_cancel_left helse)
      exact ⟨rfl, (List.cons.inj hend).2⟩
    | _ => cases hkind
  | cast hoperand htype ih =>
    refine (hoperand.cast htype).determined_of fun hother _ _ hkind _ h ↦ ?_
    cases hother with
    | cast hoperand' htype' =>
      have hblank : ∀ {rest : List Char}, Stops ([' ', 'A', 'S', ' '] ++ rest) := .blank
      obtain ⟨rfl, hto⟩ := ih hoperand' hblank hblank (List.cons.inj h).2
      obtain ⟨rfl, hend⟩ := enumColumnType_append_inj htype htype' (List.append_cancel_left hto)
      exact ⟨rfl, hend⟩
    | _ => cases hkind
  | arrayMap hbinder hbody harray ihbody iharray =>
    refine (WellNamed.arrayMap hbinder hbody harray).determined_of fun hother _ _ hkind _ h ↦ ?_
    cases hother with
    | arrayMap hbinder' hbody' harray' =>
      have hblank : ∀ {rest : List Char}, Text.NoWordChar ([' ', '-', '>', ' '] ++ rest) :=
        Text.noWordChar_cons (by decide) _
      obtain ⟨rfl, harrow⟩ :=
        Text.word_append_inj hbinder hbinder' hblank hblank (List.cons.inj h).2
      obtain ⟨rfl, hover⟩ :=
        ihbody hbody' stops_separator stops_separator (List.append_cancel_left harrow)
      obtain ⟨rfl, hend⟩ :=
        iharray harray' .parenthesis .parenthesis (List.append_cancel_left hover)
      exact ⟨rfl, (List.cons.inj hend).2⟩
    | _ => cases hkind
  | @tuple items hitems ih =>
    refine (WellNamed.tuple hitems).determined_of fun hother _ _ hkind _ h ↦ ?_
    cases hother with
    | @tuple others hothers =>
      -- No item begins with the parenthesis that closes a tuple without items.
      cases items with
      | nil =>
        cases others with
        | nil => exact ⟨rfl, (List.cons.inj (List.cons.inj h).2).2⟩
        | cons other others =>
          exact absurd (List.cons.inj h).2.symm
            ((hothers other List.mem_cons_self).append_ne_parenthesis _ _)
      | cons item items =>
        cases others with
        | nil =>
          exact absurd (List.cons.inj h).2
            ((hitems item List.mem_cons_self).append_ne_parenthesis _ _)
        | cons other others =>
          rw [List.forall_mem_cons] at ih hothers
          obtain ⟨rfl, hmore⟩ := ih.1 hothers.1 (stops_moreItems _ items) (stops_moreItems _ others)
            (List.cons.inj h).2
          obtain ⟨rfl, hend⟩ := moreItems_inj ih.2 hothers.2 hmore
          exact ⟨rfl, hend⟩
    | _ => cases hkind
  | null =>
    refine WellNamed.null.determined_of fun hother _ _ hkind _ h ↦ ?_
    cases hother with
    | null => exact ⟨rfl, h⟩
    | _ => cases hkind

/-- **Different expressions are written differently**, if their names are words. -/
theorem WellNamed.toSql_inj {other : Expr} (h : expr.WellNamed) (hother : other.WellNamed) :
    expr.toSql = other.toSql ↔ expr = other :=
  ⟨fun heq ↦ (h.determined hother .nil .nil (congrArg (·.toList ++ []) heq)).1, congrArg toSql⟩

/-- A parameter that is called `NULL` is written like null. -/
example : (parameter "NULL").toSql = null.toSql := rfl

end Expr

/-! ### Expressions of compiled plans -/

theorem toList_itemParameter (depth : Nat) :
    (itemParameter depth).toList = 'x' :: Nat.toDigits 10 depth := by
  rw [itemParameter, String.toList_append]
  exact congrArg _ String.toList_ofList

/-- The parameter of an item is a word. -/
theorem isWord_itemParameter (depth : Nat) : Text.isWord (itemParameter depth) = true := by
  have hdigits : ∀ c ∈ Nat.toDigits 10 depth, Text.isWordChar c = true := fun c hc ↦ by
    simp [Text.isWordChar, Char.isAlphanum, Nat.isDigit_of_mem_toDigits (by decide) (by decide) hc]
  rw [Text.isWord, toList_itemParameter]
  exact Bool.and_eq_true_iff.2 ⟨by decide, List.all_eq_true.2 hdigits⟩

theorem itemParameter_ne_null (depth : Nat) : itemParameter depth ≠ "NULL" := by
  intro h
  have hlist := toList_itemParameter depth
  rw [h] at hlist
  exact absurd (List.cons.inj hlist).1 (by decide)

namespace Expr

variable {expr : Expr}

/-- **Lowered expressions are well-named**, if the alias of the table is a word, and so are the source
fields. -/
theorem Lowered.wellNamed {table : String} {member : String → Prop} {scope : Option String}
    (h : expr.Lowered table member scope) (htable : Text.isWord table = true)
    (hmember : ∀ name, member name → Text.isWord name = true) : expr.WellNamed := by
  induction h with
  | column => exact .column htable
  | parameter depth => exact .parameter (isWord_itemParameter depth) (itemParameter_ne_null depth)
  | tupleElement _ hname ih => exact .tupleElement ih (hmember _ hname)
  | guardedBy _ _ ihexpr ihguard => exact .ifThenElse (.isNull ihguard) .null ihexpr
  | cast _ mayBeNull ih =>
    refine .cast ih ?_
    cases mayBeNull
    · exact .inl rfl
    · exact .inr rfl
  | arrayMap _ _ ihbody iharray => exact .arrayMap (isWord_itemParameter _) ihbody iharray
  | tuple _ ih => exact .tuple ih
  | null => exact .null

/-- The expression stands in the select list of a plan that was compiled from a catalogue. -/
inductive Compiled : Expr → Prop
  | column {catalogue : Catalogue} {registry : Registry} {settings : BuildSettings}
      {source target : String} {plan : Plan} {query : SelectSource} {select : Select}
      {column : ResultColumn} (hregister : catalogue.register = .ok registry)
      (hbuild : Plan.between registry settings source target = .ok plan)
      (hselect : plan.toSelect query = .ok select) (hcolumn : column ∈ select.columns) :
      Compiled column.expression

theorem Compiled.wellNamed (h : expr.Compiled) : expr.WellNamed := by
  cases h with
  | column hregister hbuild hselect hcolumn =>
    obtain ⟨halias, -⟩ := Plan.toSelect_eq_ok_iff.1 hselect
    exact (Plan.lowered_of_toSelect hselect hcolumn).wellNamed halias fun _ ↦
      Plan.isWord_of_namesSource hregister hbuild

/-- **Expressions that differ are written differently**, whatever they are made of, if their names are
words, columns apart. Those of compiled plans are named in this way, so two of them are written alike
only if they are the same. -/
theorem toSql_unambiguous :
    (∀ a b : Expr, a.WellNamed → b.WellNamed → (a.toSql = b.toSql ↔ a = b)) ∧
    (∀ expr : Expr, expr.Compiled → expr.WellNamed) ∧
    ∀ a b : Expr, a.Compiled → b.Compiled → (a.toSql = b.toSql ↔ a = b) :=
  ⟨fun _ _ ha hb ↦ ha.toSql_inj hb, fun _ h ↦ h.wellNamed,
    fun _ _ ha hb ↦ ha.wellNamed.toSql_inj hb.wellNamed⟩

end Expr

namespace Blog

/-- Columns whose names differ by a backtick are told apart, and so are the name of the author and the
tags in the query for posts. -/
theorem columns_told_apart :
    (Expr.column "src" "`").toSql ≠ (Expr.column "src" "``").toSql ∧
    ∃ author tags : Expr, author.Compiled ∧ tags.Compiled ∧ author.toSql ≠ tags.toSql := by
  obtain ⟨hnamed, -, hcompiled⟩ := Expr.toSql_unambiguous
  have hselect : postPlan.toSelect {} = .ok ⟨postPlan.resultColumns (.row "src") "" [], {}⟩ := by
    with_unfolding_all rfl
  have hauthor : ⟨Expr.guardedBy (.tupleElement (.column "src" "Author") "Name")
      (.column "src" "Author"), "AuthorName"⟩ ∈ postPlan.resultColumns (.row "src") "" [] :=
    .tail _ (.tail _ List.mem_cons_self)
  have htags : ⟨.arrayMap "x2" (.tuple [.cast (.tupleElement (.parameter "x2") "Rank") "Int64",
        .tupleElement (.parameter "x2") "Label"]) (.column "src" "Tags"), "Tags"⟩ ∈
      postPlan.resultColumns (.row "src") "" [] :=
    .tail _ (.tail _ (.tail _ (.tail _ List.mem_cons_self)))
  refine ⟨fun h ↦ ?_, _, _, .column register_eq between_eq hselect hauthor,
    .column register_eq between_eq hselect htags, fun h ↦ ?_⟩
  · have heq := (hnamed _ _ (.column (by decide)) (.column (by decide))).1 h
    exact absurd (Expr.column.inj heq).2 (by decide)
  · have heq := (hcompiled _ _ (.column register_eq between_eq hselect hauthor)
      (.column register_eq between_eq hselect htags)).1 h
    cases heq

end Blog

end Recast
