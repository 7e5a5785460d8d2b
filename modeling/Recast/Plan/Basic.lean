/-!
# Projection plans

A plan says how an object of a source shape becomes an object of a target shape: for each target field that
is fed, one assignment. An assignment either reads a value along a path, or descends into a nested object or
a collection with a plan of its own. A plan is plain data. It can be applied to an instance, lowered into a
query, printed, and written as JSON.
-/

namespace Recast

/-- One step of a path into the source object. -/
structure Step where
  field : String
  nullable : Bool
deriving DecidableEq, Repr

/-- The steps from the source object to the value that is read. -/
structure Path where
  steps : List Step
deriving DecidableEq, Repr

namespace Path

/-- The path of one step. -/
def single (field : String) (nullable : Bool) : Path := ⟨[⟨field, nullable⟩]⟩

/-- The path with one more step at its end. -/
def push (path : Path) (field : String) (nullable : Bool) : Path :=
  ⟨path.steps ++ [⟨field, nullable⟩]⟩

/-- The number of steps. -/
def length (path : Path) : Nat := path.steps.length

/-- A step before the last one may meet null, so the value behind it is read under a guard. -/
def isGuarded (path : Path) : Bool := path.steps.dropLast.any (·.nullable)

/-- Some step may meet null. -/
def isNullable (path : Path) : Bool := path.steps.any (·.nullable)

/-- The field names with a dot between them. -/
def render (path : Path) : String := ".".intercalate (path.steps.map (·.field))

@[simp] theorem steps_single (field : String) (nullable : Bool) :
    (single field nullable).steps = [⟨field, nullable⟩] := rfl

@[simp] theorem steps_push (path : Path) (field : String) (nullable : Bool) :
    (path.push field nullable).steps = path.steps ++ [⟨field, nullable⟩] := rfl

@[simp] theorem isNullable_single (field : String) (nullable : Bool) :
    (single field nullable).isNullable = nullable := Bool.or_false nullable

@[simp] theorem isNullable_push (path : Path) (field : String) (nullable : Bool) :
    (path.push field nullable).isNullable = (path.isNullable || nullable) := by
  simp [isNullable]

end Path

/-- How a target field found its source. -/
inductive Origin where
  /-- By its own name. -/
  | structural
  /-- By the override that it declares. -/
  | explicitOverride
deriving DecidableEq, Repr

/-- What becomes of a value that is read. -/
inductive Conversion where
  /-- The value itself. -/
  | copy
  /-- The integer of an enum value. The source enum is known unless the source is a plain integer field. -/
  | enumeration (source : Option String) (target : String)
deriving DecidableEq, Repr

/-- How a plan descends into a field of the source. -/
inductive Link where
  /-- Into an object that is always there. -/
  | object
  /-- Into an object that may be null. -/
  | optionalObject
  /-- Into every item of a list. -/
  | collection
deriving DecidableEq, Repr

/-- What stands behind the field name of a descent, where a plan is printed. -/
def Link.mark : Link → String
  | .object => ""
  | .optionalObject => "?"
  | .collection => "[*]"

/-- What feeds a target field, `P` being the type of plans. -/
inductive Feed (P : Type) where
  | value (path : Path) (conversion : Conversion)
  | child (link : Link) (field : String) (plan : P)
deriving DecidableEq, Repr

/-- A target field with what feeds it. -/
structure Assignment (P : Type) where
  target : String
  origin : Origin
  feed : Feed P
deriving DecidableEq, Repr

/-- Assignments that turn an object of the source shape into one of the target shape. The depth is the
recursion level at which the plan was made, one at the top. -/
structure Plan where
  source : String
  target : String
  depth : Nat
  assignments : List (Assignment Plan)
deriving Repr

/-- The plan of a nested object or of the items of a collection. -/
def Feed.child? {P : Type} : Feed P → Option P
  | .value _ _ => none
  | .child _ _ plan => some plan

/-- The name of the sort of an assignment. -/
def Feed.kindName {P : Type} : Feed P → String
  | .value _ .copy => "DirectCopy"
  | .value _ (.enumeration _ _) => "EnumConvert"
  | .child .object _ _ => "Nested"
  | .child .optionalObject _ _ => "ConditionalNested"
  | .child .collection _ _ => "Collection"

namespace Plan

/-- Nothing is assigned. -/
def isEmpty (plan : Plan) : Bool := plan.assignments.isEmpty

/-- The target fields that are fed, in order. -/
def targetFields (plan : Plan) : List String := plan.assignments.map (·.target)

/-- The first assignment to a target field. -/
def assignment? (plan : Plan) (target : String) : Option (Assignment Plan) :=
  plan.assignments.find? fun a ↦ a.target = target

/-! ### Induction -/

/-- A property of all plans holds if it holds of every plan whose children have it. -/
theorem induction {motive : Plan → Prop}
    (step : ∀ plan : Plan,
      (∀ a ∈ plan.assignments, ∀ child, a.feed.child? = some child → motive child) → motive plan)
    (plan : Plan) : motive plan :=
  Plan.rec (motive_1 := motive)
    (motive_2 := fun as ↦ ∀ a ∈ as, ∀ child, a.feed.child? = some child → motive child)
    (motive_3 := fun a ↦ ∀ child, a.feed.child? = some child → motive child)
    (motive_4 := fun feed ↦ ∀ child, feed.child? = some child → motive child)
    (fun _ _ _ _ ih ↦ step _ ih)
    (fun _ h ↦ absurd h List.not_mem_nil)
    (fun _ _ head tail a h ↦ (List.mem_cons.1 h).elim (fun e ↦ e ▸ head) (tail a))
    (fun _ _ _ ih ↦ ih)
    (fun _ _ _ h ↦ nomatch h)
    (fun _ _ _ ih _ h ↦ Option.some.inj h ▸ ih)
    plan

/-! ### Measures -/

mutual

/-- The number of assignments in a plan and in all plans below it. -/
def nodeCount : Plan → Nat
  | ⟨_, _, _, assignments⟩ => nodeCountAll assignments

/-- The number of assignments in a list and in all plans below them. -/
def nodeCountAll : List (Assignment Plan) → Nat
  | [] => 0
  | ⟨_, _, .value _ _⟩ :: rest => 1 + nodeCountAll rest
  | ⟨_, _, .child _ _ plan⟩ :: rest => 1 + plan.nodeCount + nodeCountAll rest

end

mutual

/-- The greatest depth of a plan and of all plans below it. -/
def maxDepth : Plan → Nat
  | ⟨_, _, depth, assignments⟩ => maxDepthAll depth assignments

/-- The greatest of a depth and the depths of all plans below the assignments. -/
def maxDepthAll (depth : Nat) : List (Assignment Plan) → Nat
  | [] => depth
  | ⟨_, _, .value _ _⟩ :: rest => maxDepthAll depth rest
  | ⟨_, _, .child _ _ plan⟩ :: rest => maxDepthAll (max depth plan.maxDepth) rest

end

/-! ### Text -/

mutual

/-- The lines of a plan, the first of them indented by `indent` blanks. -/
def lines (indent : Nat) : Plan → List String
  | ⟨source, target, _, assignments⟩ =>
    (String.ofList (List.replicate indent ' ') ++ source ++ " -> " ++ target) ::
      linesAll (indent + 2) assignments

/-- The lines of assignments. -/
def linesAll (indent : Nat) : List (Assignment Plan) → List String
  | [] => []
  | ⟨target, _, .value path .copy⟩ :: rest =>
    (String.ofList (List.replicate indent ' ') ++ target ++ " = " ++ path.render) :: linesAll indent rest
  | ⟨target, _, .value path (.enumeration _ type)⟩ :: rest =>
    (String.ofList (List.replicate indent ' ') ++ target ++ " = (" ++ type ++ ") " ++ path.render) ::
      linesAll indent rest
  | ⟨target, _, .child link field plan⟩ :: rest =>
    (String.ofList (List.replicate indent ' ') ++ target ++ " = " ++ field ++ link.mark ++ ":") ::
      (plan.lines (indent + 2) ++ linesAll indent rest)

end

/-- The plan as an indented outline, every line ended. -/
def render (plan : Plan) : String := String.join ((plan.lines 0).map (· ++ "\n"))

end Plan

end Recast
