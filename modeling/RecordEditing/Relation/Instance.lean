import RecordEditing.Relation.Error

/-!
What templates mean: the filter a template becomes for a known record, the relation it states
between two records, and its inverse, which searches the known record for the searched one.
-/
namespace RecordEditing
namespace TemplateRule

/-- The rule of a leaf for a known record; a property the known record lacks is null. -/
def instantiateLeaf (known : Option Record) (op : Operator) :
    Leaf → Except RelationError FilterRule
  | .link k s =>
    match known with
    | none => .error (.missingParent k)
    | some r => .ok (.compare op s ((r.get? k).getD .null))
  | .literal p v => .ok (.compare op p v)

mutual

def instantiate (known : Option Record) : TemplateRule → Except RelationError FilterRule
  | .mk (.compare op) parts children =>
    match parts.leaf? with
    | none => .error (.configuration (.malformedRule (.mk (.compare op) parts children)))
    | some leaf => instantiateLeaf known op leaf
  | .mk .all _ children =>
    if children.isEmpty then .error (.configuration .emptyGroup)
    else (instantiateItems known children).map .all
  | .mk .any _ children =>
    if children.isEmpty then .error (.configuration .emptyGroup)
    else (instantiateItems known children).map .any

def instantiateItems (known : Option Record) :
    List TemplateRule → Except RelationError (List FilterRule)
  | [] => .ok []
  | t :: ts =>
    match instantiate known t with
    | .error e => .error e
    | .ok rule =>
      match instantiateItems known ts with
      | .error e => .error e
      | .ok rules => .ok (rule :: rules)

end

def leafHolds (known searched : Record) (op : Operator) : Leaf → Bool
  | .link k s => op.holds (searched.get? s) ((known.get? k).getD .null)
  | .literal p v => op.holds (searched.get? p) v

mutual

def holdsBetween (known searched : Record) : TemplateRule → Bool
  | .mk (.compare op) parts _ => parts.leaf?.any (leafHolds known searched op)
  | .mk .all _ children => allHoldBetween known searched children
  | .mk .any _ children => anyHoldsBetween known searched children

def allHoldBetween (known searched : Record) : List TemplateRule → Bool
  | [] => true
  | t :: ts => holdsBetween known searched t && allHoldBetween known searched ts

def anyHoldsBetween (known searched : Record) : List TemplateRule → Bool
  | [] => false
  | t :: ts => holdsBetween known searched t || anyHoldsBetween known searched ts

end

/-- The inverse of a leaf: a link is turned round, and a literal, which says nothing about the known
record, has none. -/
def inverseLeaf? (op : Operator) : Leaf → Option TemplateRule
  | .link k s => some (.link op s k)
  | .literal _ _ => none

mutual

/-- The inverse of a rule; a group keeps the children that have one. -/
def inverse? : TemplateRule → Option TemplateRule
  | .mk (.compare op) parts _ => parts.leaf?.bind (inverseLeaf? op)
  | .mk op _ children =>
    match inverses children with
    | [] => none
    | t :: ts => some (.mk op {} (t :: ts))

def inverses : List TemplateRule → List TemplateRule
  | [] => []
  | t :: ts =>
    match inverse? t with
    | none => inverses ts
    | some i => i :: inverses ts

end

def searchedOf : Leaf → String
  | .link _ s => s
  | .literal p _ => p

mutual

def reads : TemplateRule → List String
  | .mk (.compare _) parts _ => (parts.leaf?.map searchedOf).toList
  | .mk _ _ children => readsOf children

def readsOf : List TemplateRule → List String
  | [] => []
  | t :: ts => reads t ++ readsOf ts

end

end TemplateRule
end RecordEditing
