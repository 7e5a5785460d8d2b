import Mathlib.Data.List.Pairwise
import Mathlib.Data.List.TakeWhile
import Recast.Proofs.Plan.Typing
import Recast.Proofs.Shape.Lookup
import Recast.Proofs.Sql.Lowered

/-!
# The names of the columns

A column is named by the target fields on the way to its leaf, with dots between them. That no name
is given twice is a fact about paths: those of a compiled plan are in the order of declaration
(`Registry.Precedes`), and of two paths of which one precedes the other neither continues the other.
Names show this because field names are words and have no dot, so a name can be split into its path
again (`Text.splitOn_dotted`).

That there is a column at all is a fact about the construction: it drops an object for which nothing
is assigned, so below an object of a well-typed plan there always is a leaf.

`Plan.toSelect_names` puts these together, for any query of a compiled plan.
-/

namespace Recast

/-! ### Dots -/

namespace Text

variable {path other : List String}

/-- **A dotted path of words can be split again.** -/
theorem splitOn_dotted (hwords : ∀ name ∈ path, isWord name = true) (hne : path ≠ []) :
    (".".intercalate path).toList.splitOn '.' = path.map String.toList := by
  have hdot : ∀ chars ∈ path.map String.toList, '.' ∉ chars :=
    List.forall_mem_map.2 fun name hname ↦ notMem_of_isWord (hwords name hname) (by decide)
  rw [String.toList_intercalate]
  exact List.splitOn_intercalate '.' hdot (by simpa using hne)

theorem eq_of_dotted_eq (hpath : ∀ name ∈ path, isWord name = true) (hne : path ≠ [])
    (hother : ∀ name ∈ other, isWord name = true) (hne' : other ≠ [])
    (h : ".".intercalate path = ".".intercalate other) : path = other := by
  have hsplit := splitOn_dotted hpath hne
  rw [h, splitOn_dotted hother hne'] at hsplit
  exact (List.map_injective_iff.2 (fun _ _ ↦ String.toList_injective) hsplit).symm

/-- **What stands before a dot in a dotted path of words is a path that it continues**, if it is a
dotted path. -/
theorem isPrefix_of_dotted_eq (hpath : ∀ name ∈ path, isWord name = true) (hne : path ≠ [])
    (hother : ∀ name ∈ other, isWord name = true) (hne' : other ≠ []) {rest : String}
    (h : ".".intercalate other = ".".intercalate path ++ "." ++ rest) :
    path <+: other ∧ path ≠ other := by
  have hsplit := splitOn_dotted hother hne'
  rw [h, String.toList_append, String.toList_append, List.append_assoc] at hsplit
  have hdot : ".".toList ++ rest.toList = '.' :: rest.toList := rfl
  rw [hdot, List.splitOn_append_cons_self, splitOn_dotted hpath hne] at hsplit
  refine ⟨(List.prefix_map_iff_of_injective fun _ _ ↦ String.toList_injective).1 ⟨_, hsplit⟩, ?_⟩
  rintro rfl
  exact List.splitOn_ne_nil '.' rest.toList (List.append_right_eq_self.1 hsplit)

end Text

theorem forall_ne_dot_of_notMem {chars : List Char} (h : '.' ∉ chars) :
    ∀ c ∈ chars, decide (c ≠ '.') = true :=
  fun _ hc ↦ decide_eq_true (ne_of_mem_of_not_mem hc h)

/-- A name without a dot names a table if it is a word. -/
theorem isTableName_of_notMem {name : String} (h : '.' ∉ name.toList) :
    isTableName name = Text.isWord name := by
  have hall := forall_ne_dot_of_notMem h
  simp only [isTableName, List.takeWhile_eq_self_iff.2 hall, List.dropWhile_eq_nil_iff.2 hall,
    String.ofList_toList]

/-- A name is taken apart at its first dot. -/
theorem isTableName_dotted {database : String} (h : '.' ∉ database.toList) (table : String) :
    isTableName (database ++ "." ++ table) = (Text.isWord database && Text.isWord table) := by
  have hall := forall_ne_dot_of_notMem h
  have hchars : (database ++ "." ++ table).toList = database.toList ++ '.' :: table.toList := by
    simp
  have hfirst : (database.toList ++ '.' :: table.toList).takeWhile (fun c ↦ decide (c ≠ '.')) =
      database.toList := by
    rw [List.takeWhile_append_of_pos hall, List.takeWhile_cons_of_neg (by decide), List.append_nil]
  have hsecond : (database.toList ++ '.' :: table.toList).dropWhile (fun c ↦ decide (c ≠ '.')) =
      '.' :: table.toList := by
    rw [List.dropWhile_append_of_pos hall, List.dropWhile_cons_of_neg (by decide)]
  simp only [isTableName, hchars, hfirst, hsecond, String.ofList_toList]

/-- **The name of a table is a word, or two words with a dot between them.** -/
theorem isTableName_iff {name : String} :
    isTableName name = true ↔ Text.Word name ∨
      ∃ database table, Text.Word database ∧ Text.Word table ∧
        name = database ++ "." ++ table := by
  simp only [← Text.isWord_iff]
  have hword : ∀ {word}, Text.isWord word = true → '.' ∉ word.toList := fun h ↦
    Text.notMem_of_isWord h (by decide)
  constructor
  · intro h
    by_cases hdot : '.' ∈ name.toList
    · obtain ⟨before, after, hname, hbefore⟩ := List.eq_append_cons_of_mem hdot
      obtain rfl : name = String.ofList before ++ "." ++ String.ofList after :=
        String.toList_injective (by simpa using hname)
      rw [isTableName_dotted (by simpa using hbefore), Bool.and_eq_true] at h
      exact .inr ⟨_, _, h.1, h.2, rfl⟩
    · exact .inl (isTableName_of_notMem hdot ▸ h)
  · rintro (h | ⟨database, table, hdatabase, htable, rfl⟩)
    · rwa [isTableName_of_notMem (hword h)]
    · rw [isTableName_dotted (hword hdatabase), hdatabase, htable]
      rfl

/-! ### Paths in the order of declaration -/

/-- **The first path comes before the second in the order of declaration**, both being paths into
objects of the shape: its first field is declared earlier, or the paths start with the same nested
field and are so ordered below it. -/
inductive Registry.Precedes (registry : Registry) : String → List String → List String → Prop
  | here {shape first second : String} {fields : List Field} {path other : List String}
      (hfields : registry.fields shape = .ok fields)
      (hbefore : [first, second].Sublist (fields.map (·.name))) :
      Precedes registry shape (first :: path) (second :: other)
  | nested {shape inner : String} {fields : List Field} {field : Field} {path other : List String}
      (hfields : registry.fields shape = .ok fields) (hfield : field ∈ fields)
      (hkind : field.kind = .nested inner) (h : Precedes registry inner path other) :
      Precedes registry shape (field.name :: path) (field.name :: other)

/-- **Neither of two ordered paths continues the other.** -/
theorem Registry.Precedes.not_prefix {registry : Registry} (hclosed : registry.Closed)
    {shape : String} {path other : List String} (h : registry.Precedes shape path other) :
    ¬ path <+: other ∧ ¬ other <+: path := by
  induction h with
  | here hfields hbefore =>
    have hnodup := hbefore.nodup (hclosed.nodup hfields)
    have hne := (List.nodup_cons.1 hnodup).1
    rw [List.mem_singleton] at hne
    simp only [List.cons_prefix_cons]
    exact ⟨fun h ↦ hne h.1, fun h ↦ hne h.1.symm⟩
  | nested _ _ _ _ ih => simpa only [List.cons_prefix_cons, true_and] using ih

/-- Of paths in the order of declaration, none continues another. -/
theorem Registry.not_prefix_of_pairwise {registry : Registry} (hclosed : registry.Closed)
    {shape : String} {paths : List (List String)}
    (hordered : paths.Pairwise (registry.Precedes shape)) {path other : List String}
    (hpath : path ∈ paths) (hother : other ∈ paths) (hne : path ≠ other) : ¬ path <+: other := by
  have hapart : paths.Pairwise fun path other ↦ ¬ path <+: other ∧ ¬ other <+: path :=
    hordered.imp fun hprecedes ↦ hprecedes.not_prefix hclosed
  have : Std.Symm fun path other : List String ↦ ¬ path <+: other ∧ ¬ other <+: path :=
    ⟨fun _ _ ↦ And.symm⟩
  exact (hapart.forall hpath hother hne).1

/-- **Dotted names of ordered paths are distinct, and none is continued by another.** -/
theorem Registry.dotted_unambiguous {registry : Registry} (hclosed : registry.Closed)
    {shape : String} {paths : List (List String)}
    (hordered : paths.Pairwise (registry.Precedes shape))
    (hwords : ∀ path ∈ paths, path ≠ [] ∧ ∀ name ∈ path, Text.isWord name = true) :
    (paths.map (".".intercalate ·)).Nodup ∧
      ∀ name ∈ paths.map (".".intercalate ·), ∀ other ∈ paths.map (".".intercalate ·),
        ∀ rest, other ≠ name ++ "." ++ rest := by
  constructor
  · rw [List.Nodup, List.pairwise_map]
    refine hordered.imp_of_mem fun {path other} hpath hother hprecedes heq ↦ ?_
    obtain ⟨hne, hpathWords⟩ := hwords path hpath
    obtain ⟨hne', hotherWords⟩ := hwords other hother
    obtain rfl := Text.eq_of_dotted_eq hpathWords hne hotherWords hne' heq
    exact (hprecedes.not_prefix hclosed).1 (List.prefix_refl _)
  · simp only [List.forall_mem_map]
    intro path hpath other hother rest heq
    obtain ⟨hne, hpathWords⟩ := hwords path hpath
    obtain ⟨hne', hotherWords⟩ := hwords other hother
    obtain ⟨hcontinues, hdistinct⟩ := Text.isPrefix_of_dotted_eq hpathWords hne hotherWords hne' heq
    exact Registry.not_prefix_of_pairwise hclosed hordered hpath hother hdistinct hcontinues

namespace Plan

/-- **The plan selects the target path**: it leads through objects to an assignment of a value or a
collection. -/
inductive Selects : Plan → List String → Prop
  | value {plan : Plan} {assignment : Assignment Plan} {path : Path} {conversion : Conversion}
      (hassignment : assignment ∈ plan.assignments)
      (hfeed : assignment.feed = .value path conversion) : Selects plan [assignment.target]
  | collection {plan child : Plan} {assignment : Assignment Plan} {field : String}
      (hassignment : assignment ∈ plan.assignments)
      (hfeed : assignment.feed = .child .collection field child) :
      Selects plan [assignment.target]
  | object {plan child : Plan} {assignment : Assignment Plan} {link : Link} {field : String}
      {path : List String} (hassignment : assignment ∈ plan.assignments)
      (hfeed : assignment.feed = .child link field child) (hlink : link ≠ .collection)
      (h : Selects child path) : Selects plan (assignment.target :: path)

variable {registry : Registry} {plan : Plan} {path : List String}

/-- **The paths of the leaves are the selected ones.** -/
theorem mem_leaves_path_iff : path ∈ plan.leaves.map Leaf.path ↔ plan.Selects path := by
  rw [List.mem_map]
  constructor
  · rintro ⟨leaf, hleaf, rfl⟩
    induction plan using Plan.induction generalizing leaf with
    | step plan ih =>
      obtain ⟨a, ha, hleaf⟩ := mem_leaves_iff.1 hleaf
      cases hleaf with
      | own hown =>
        rcases hfeed : a.feed with ⟨path, conversion⟩ | ⟨link, field, child⟩
        · exact .value ha hfeed
        · obtain rfl := hown link field child hfeed
          exact .collection ha hfeed
      | below hfeed hlink hinner =>
        exact .object ha hfeed hlink (ih a ha _ (by rw [hfeed]; rfl) _ hinner)
  · intro h
    induction h with
    | value ha hfeed =>
      exact ⟨_, mem_leaves_iff.2 ⟨_, ha, .own (by simp [hfeed])⟩, rfl⟩
    | collection ha hfeed =>
      refine ⟨_, mem_leaves_iff.2 ⟨_, ha, .own fun link field child h ↦ ?_⟩, rfl⟩
      rw [hfeed] at h
      cases h
      rfl
    | object ha hfeed hlink _ ih =>
      obtain ⟨leaf, hleaf, rfl⟩ := ih
      exact ⟨_, mem_leaves_iff.2 ⟨_, ha, .below hfeed hlink hleaf⟩, rfl⟩

/-- A selected path has a step. -/
theorem Selects.ne_nil (h : plan.Selects path) : path ≠ [] := by
  cases h <;> exact List.cons_ne_nil _ _

/-- A well-typed assignment is to a registered field. -/
theorem WellTyped.namesField (htyped : plan.WellTyped registry) {assignment : Assignment Plan}
    (ha : assignment ∈ plan.assignments) : registry.NamesField assignment.target := by
  obtain ⟨-, htarget, -, -, hassignments, -⟩ := htyped
  obtain ⟨field, hfield, hassignment⟩ := hassignments assignment ha
  rw [hassignment.target_eq]
  exact Registry.namesField_of_mem htarget hfield

/-- **A selected path of a well-typed plan is made of names of registered fields.** -/
theorem Selects.namesField (htyped : plan.WellTyped registry) (h : plan.Selects path) :
    ∀ name ∈ path, registry.NamesField name := by
  induction h with
  | value ha | collection ha => exact List.forall_mem_singleton.2 (htyped.namesField ha)
  | object ha hfeed _ _ ih =>
    exact List.forall_mem_cons.2 ⟨htyped.namesField ha, ih (htyped.child ha (by rw [hfeed]; rfl))⟩

/-- **A well-typed plan that is not empty selects something**: objects for which nothing is assigned
are not in it. -/
theorem exists_selects (htyped : plan.WellTyped registry) (hplan : plan.isEmpty = false) :
    ∃ path, plan.Selects path := by
  induction plan using Plan.induction with
  | step plan ih =>
    obtain ⟨a, ha⟩ : ∃ a, a ∈ plan.assignments :=
      List.exists_mem_of_ne_nil _ (List.isEmpty_eq_false_iff.1 hplan)
    have hchildren : ∀ child, a.feed.child? = some child → child.isEmpty = false →
        ∃ path, child.Selects path :=
      fun child hchild ↦ ih a ha child hchild (htyped.child ha hchild)
    obtain ⟨-, -, -, -, hassignments, -⟩ := htyped
    obtain ⟨field, -, hassignment⟩ := hassignments a ha
    have hfeedTyped := hassignment.feed
    rcases hfeed : a.feed with ⟨path, conversion⟩ | ⟨link, name, child⟩
    · exact ⟨_, .value ha hfeed⟩
    · rw [hfeed] at hfeedTyped hchildren
      cases hfeedTyped with
      | object _ _ _ _ _ hchild =>
        obtain ⟨path, hpath⟩ := hchildren child rfl hchild
        exact ⟨_, .object ha hfeed nofun hpath⟩
      | optionalObject _ _ _ _ _ hchild =>
        obtain ⟨path, hpath⟩ := hchildren child rfl hchild
        exact ⟨_, .object ha hfeed nofun hpath⟩
      | collection => exact ⟨_, .collection ha hfeed⟩

/-! ### The order of the columns -/

/-- The leaves of the first assignment come first. -/
theorem leavesAll_cons {assignment : Assignment Plan} {rest : List (Assignment Plan)} :
    leavesAll plan (assignment :: rest) = leavesAll plan [assignment] ++ leavesAll plan rest := by
  obtain ⟨target, origin, ⟨path, conversion⟩ | ⟨- | - | -, field, child⟩⟩ := assignment <;>
    simp [leavesAll]

theorem mem_leavesAll_singleton {assignment : Assignment Plan} {leaf : Leaf} :
    leaf ∈ leavesAll plan [assignment] ↔ plan.HasLeaf assignment leaf := by
  simp [leavesAll]

/-- The leaves of a plan are those of its assignments, in order. -/
theorem leaves_eq_flatMap (plan : Plan) :
    plan.leaves = plan.assignments.flatMap fun a ↦ leavesAll plan [a] := by
  have hall : ∀ assignments, leavesAll plan assignments =
      assignments.flatMap fun a ↦ leavesAll plan [a] := by
    intro assignments
    induction assignments with
    | nil => rfl
    | cons assignment rest ih => rw [leavesAll_cons, ih, List.flatMap_cons]
  obtain ⟨source, target, depth, assignments⟩ := plan
  exact hall assignments

/-- The path to a leaf starts with the target field of its assignment. -/
theorem HasLeaf.exists_path_eq {assignment : Assignment Plan} {leaf : Leaf}
    (h : plan.HasLeaf assignment leaf) : ∃ path, leaf.path = assignment.target :: path := by
  cases h with
  | own => exact ⟨[], rfl⟩
  | below => exact ⟨_, rfl⟩

/-- Below an object the order is that of the plan for the object. -/
theorem pairwise_precedes_of_assignment (htyped : plan.WellTyped registry)
    {assignment : Assignment Plan}
    (ha : assignment ∈ plan.assignments)
    (hchildren : ∀ child, assignment.feed.child? = some child →
      (child.leaves.map Leaf.path).Pairwise (registry.Precedes child.target)) :
    ((leavesAll plan [assignment]).map Leaf.path).Pairwise (registry.Precedes plan.target) := by
  obtain ⟨-, htarget, -, -, hassignments, -⟩ := htyped
  obtain ⟨field, hfield, hassignment⟩ := hassignments assignment ha
  have hfeed := hassignment.feed
  have hname := hassignment.target_eq
  -- What is ordered for the object stays so behind the field that holds it.
  have hbelow : ∀ {child : Plan} {link name}, field.kind = .nested child.target →
      (child.leaves.map Leaf.path).Pairwise (registry.Precedes child.target) →
      ((child.leaves.map (Leaf.below ⟨assignment.target, link, name⟩)).map Leaf.path).Pairwise
        (registry.Precedes plan.target) := by
    intro child link name hkind hchild
    rw [List.map_map, List.pairwise_map]
    rw [List.pairwise_map] at hchild
    refine hchild.imp fun h ↦ ?_
    have hnested := Registry.Precedes.nested htarget hfield hkind h
    rw [← hname] at hnested
    exact hnested
  obtain ⟨target, origin, ⟨path, conversion⟩ | ⟨link, name, child⟩⟩ := assignment
  · exact List.pairwise_singleton _ _
  · cases hfeed with
    | object _ _ hkind =>
      simpa [leavesAll] using hbelow hkind (hchildren child rfl)
    | optionalObject _ _ hkind =>
      simpa [leavesAll] using hbelow hkind (hchildren child rfl)
    | collection => exact List.pairwise_singleton _ _

/-- **The paths of a well-typed plan are in the order of declaration.** -/
theorem pairwise_precedes (htyped : plan.WellTyped registry) :
    (plan.leaves.map Leaf.path).Pairwise (registry.Precedes plan.target) := by
  induction plan using Plan.induction with
  | step plan ih =>
    rw [leaves_eq_flatMap, List.map_flatMap, List.pairwise_flatMap]
    refine ⟨fun a ha ↦ pairwise_precedes_of_assignment htyped ha fun child hchild ↦
      ih a ha child hchild (htyped.child ha hchild), ?_⟩
    obtain ⟨-, htarget, hsublist, -, -, -⟩ := htyped
    rw [List.pairwise_iff_forall_sublist]
    intro a b hab path hpath other hother
    obtain ⟨leaf, hleaf, rfl⟩ := List.mem_map.1 hpath
    obtain ⟨leaf', hleaf', rfl⟩ := List.mem_map.1 hother
    obtain ⟨path, hpath⟩ := (mem_leavesAll_singleton.1 hleaf).exists_path_eq
    obtain ⟨other, hother⟩ := (mem_leavesAll_singleton.1 hleaf').exists_path_eq
    rw [hpath, hother]
    exact .here htarget ((hab.map Assignment.target).trans hsublist)

/-- **The select list of a compiled plan is not empty and not ambiguous.** A compiled plan has a
query exactly if the alias is a word, the table, if there is one, is a word or two words with a dot
between them, and the plan is not empty. Then its columns are named by the paths that the plan
selects, in the order of declaration and with dots between the steps. There is one at least, no
name is given twice, and no name is continued by another behind a dot. -/
theorem toSelect_names {catalogue : Catalogue} (hregister : catalogue.register = .ok registry)
    {settings : BuildSettings} {source target : String}
    (hbuild : between registry settings source target = .ok plan) (query : SelectSource) :
    ((∃ select, plan.toSelect query = .ok select) ↔
      Text.Word query.tableAlias ∧
      (∀ name, query.table = some name → Text.Word name ∨
        ∃ database table, Text.Word database ∧ Text.Word table ∧
          name = database ++ "." ++ table) ∧
      plan.assignments ≠ []) ∧
    ∀ select, plan.toSelect query = .ok select →
      (∃ paths : List (List String), select.names = paths.map (".".intercalate ·) ∧
        (∀ path, path ∈ paths ↔ plan.Selects path) ∧ paths.Pairwise (registry.Precedes target)) ∧
      select.names ≠ [] ∧ select.names.Nodup ∧
      ∀ name ∈ select.names, ∀ other ∈ select.names, ∀ rest, other ≠ name ++ "." ++ rest := by
  have hclosed := Registry.closed_of_register hregister
  have htyped := ofPair_wellTyped hclosed hbuild
  obtain ⟨-, rfl, -⟩ := labels_of_ofPair hbuild
  refine ⟨?_, fun select hselect ↦ ?_⟩
  · simp only [toSelect_eq_ok_iff, exists_and_left, exists_eq, and_true, isEmpty,
      List.isEmpty_eq_false_iff, Text.isWord_iff, isTableName_iff]
  obtain ⟨-, -, hplan, rfl⟩ := toSelect_eq_ok_iff.1 hselect
  have hnames : (⟨plan.resultColumns (.row query.tableAlias) "" [], query⟩ : Select).names =
      (plan.leaves.map Leaf.path).map (".".intercalate ·) := by
    simp [Select.names, resultColumns_eq]
  have hwords : ∀ path ∈ plan.leaves.map Leaf.path, path ≠ [] ∧
      ∀ name ∈ path, Text.isWord name = true := by
    intro path hpath
    have hselects := mem_leaves_path_iff.1 hpath
    exact ⟨hselects.ne_nil, fun name hname ↦
      (hselects.namesField htyped name hname).isWord hregister⟩
  have hordered := pairwise_precedes htyped
  rw [hnames]
  refine ⟨⟨_, rfl, fun path ↦ mem_leaves_path_iff, hordered⟩, ?_,
    Registry.dotted_unambiguous hclosed hordered hwords⟩
  obtain ⟨path, hpath⟩ := exists_selects htyped hplan
  exact List.ne_nil_of_mem (List.mem_map_of_mem (mem_leaves_path_iff.2 hpath))

end Plan

namespace Blog

/-- The names of the columns that a post has, among them those of its parent. -/
theorem postPlan_names :
    ∃ select, postPlan.toSelect { table := some "blog.posts" } = .ok select ∧
      select.names = ["Id", "State", "AuthorName", "Site.Url", "Tags", "Parent.Id", "Parent.State",
        "Parent.AuthorName"] ∧
      select.names.Nodup ∧ ∀ rest, "Parent.Id" ≠ "Id" ++ "." ++ rest := by
  obtain ⟨hexists, hnames⟩ :=
    Plan.toSelect_names register_eq between_eq { table := some "blog.posts" }
  have hword : ∀ {text}, Text.isWord text = true → Text.Word text := Text.isWord_iff.1
  obtain ⟨select, hselect⟩ := hexists.2 ⟨hword (by decide), fun name hname ↦
    .inr ⟨"blog", "posts", hword (by decide), hword (by decide), by simpa using hname.symm⟩,
    List.cons_ne_nil _ _⟩
  obtain ⟨-, -, hnodup, hcontinued⟩ := hnames select hselect
  have hlist : select.names = ["Id", "State", "AuthorName", "Site.Url", "Tags", "Parent.Id",
      "Parent.State", "Parent.AuthorName"] := by
    obtain ⟨-, -, -, rfl⟩ := Plan.toSelect_eq_ok_iff.1 hselect
    with_unfolding_all rfl
  refine ⟨select, hselect, hlist, hnodup, hcontinued _ ?_ _ ?_⟩
  all_goals simp [hlist]

end Blog

end Recast
