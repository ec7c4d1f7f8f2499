import RecordEditing.Proofs.Relation.Valid
import RecordEditing.Proofs.Tree.Container

/-!
The plainest tree container and tables given by pairs of an id and a link.
-/
namespace RecordEditing

def Relations.tree (provider link : String) : Relations where
  root := some {
    provider
    filter := [.mk (.compare .equals) { property := some link, value := some (.int 0) } []]
    setters := [{ target := some link, value := some (.int 0) }] }
  children := [{
    source := provider
    destination := provider
    filter := [.link .equals Record.idProperty link]
    setters := [{ target := some link, source := some Record.idProperty }] }]

def ContainerConfig.tree (provider link : String) : ContainerConfig where
  name := provider
  basic := { mode := .hierarchical, dataProvider := provider, rootProvider := some provider }
  relations := .tree provider link

def Container.tree (provider link : String) : Container :=
  (ContainerConfig.tree provider link).unchecked

theorem Container.isTree_tree (provider : String) {link : String}
    (ne : link ≠ Record.idProperty) : (Container.tree provider link).IsTree provider link where
  mode := rfl
  link_ne_id := ne
  root := ⟨_, _, rfl, ⟨rfl, rfl⟩, rfl⟩
  child := ⟨_, _, rfl, TemplateRule.isEquality_link _ _, rfl⟩

theorem ContainerConfig.compile_tree {provider : String} (named : provider ≠ "")
    (link : String) :
    (ContainerConfig.tree provider link).compile = .ok (Container.tree provider link) := by
  apply compile_of_validate rfl
  unfold validate
  rw [if_neg (by exact named), if_neg (by simp [tree]), if_neg (by simp [tree, Relations.tree])]
  rfl

def Record.node (provider link : String) (id up : Int) : Record :=
  ((Record.empty provider).set idProperty (.int id)).set link (.int up)

section Nodes

variable {provider link : String} (ne : link ≠ Record.idProperty)

theorem Record.link_node (provider link : String) (id up : Int) :
    (Record.node provider link id up).int? link = some up :=
  Record.int?_eq_some.mpr (Record.get?_set_self _ _ _)

include ne in
theorem Record.id_node (id up : Int) :
    (Record.node provider link id up).int? idProperty = some id := by
  apply Record.int?_eq_some.mpr
  unfold Record.node
  rw [Record.get?_set_of_ne _ ne, Record.get?_set_self]

def Table.nodes (provider link : String) (nodes : List (Int × Int)) : Table where
  provider := provider
  records := nodes.map fun n => Record.node provider link n.1 n.2
  own := by
    intro r member
    obtain ⟨_, _, rfl⟩ := List.mem_map.mp member
    rfl

theorem Table.mem_nodes {nodes : List (Int × Int)} {id up : Int} (member : (id, up) ∈ nodes) :
    Record.node provider link id up ∈ (Table.nodes provider link nodes).records :=
  List.mem_map.mpr ⟨(id, up), member, rfl⟩

include ne in
theorem Table.linked_nodes {nodes : List (Int × Int)}
    (ids : ∀ n ∈ nodes, n.1 ≠ 0 ∧ n.1.natAbs ≤ Binary64.binade)
    (links : ∀ n ∈ nodes, n.2.natAbs ≤ Binary64.binade) (distinct : (nodes.map (·.1)).Nodup) :
    Linked link (Table.nodes provider link nodes).records where
  ids := by
    intro r member
    obtain ⟨n, given, rfl⟩ := List.mem_map.mp member
    exact ⟨n.1, Record.id_node ne n.1 n.2, ids n given⟩
  links := by
    intro r member
    obtain ⟨n, given, rfl⟩ := List.mem_map.mp member
    exact ⟨n.2, Record.link_node provider link n.1 n.2, links n given⟩
  distinct := by
    have names : (Table.nodes provider link nodes).records.map (·.int? Record.idProperty) =
        (nodes.map (·.1)).map some := by
      simp only [Table.nodes, List.map_map]
      apply List.map_congr_left
      intro n _
      exact Record.id_node ne n.1 n.2
    rw [names]
    exact distinct.map fun _ _ same => Option.some.inj same

def parentsFirst (known : List Int) : List (Int × Int) → Bool
  | [] => true
  | (id, up) :: rest => (up == 0 || known.contains up) && parentsFirst (id :: known) rest

include ne in
theorem rooted_of_parentsFirst {records : List Record} {nodes : List (Int × Int)}
    {known : List Int} (ordered : parentsFirst known nodes = true)
    (all : ∀ n ∈ nodes, Record.node provider link n.1 n.2 ∈ records)
    (earlier : ∀ i ∈ known, ∃ p ∈ records, p.int? Record.idProperty = some i ∧
      Rooted link records p) :
    ∀ n ∈ nodes, Rooted link records (Record.node provider link n.1 n.2) := by
  induction nodes generalizing known with
  | nil => simp
  | cons n rest ih =>
    obtain ⟨id, up⟩ := n
    simp only [parentsFirst, Bool.and_eq_true, Bool.or_eq_true, beq_iff_eq,
      List.contains_iff_mem] at ordered
    have here : Rooted link records (Record.node provider link id up) := by
      rcases ordered.1 with zero | old
      · rw [zero]
        exact .top (Record.link_node provider link id 0)
      · obtain ⟨p, stored, holds, rooted⟩ := earlier up old
        exact .up stored ⟨up, Record.link_node provider link id up, holds⟩ rooted
    intro m member
    rcases List.mem_cons.mp member with rfl | later
    · exact here
    · refine ih ordered.2 (fun x given => all x (List.mem_cons_of_mem _ given)) ?_ m later
      intro i old
      rcases List.mem_cons.mp old with rfl | before
      · exact ⟨_, all _ (List.mem_cons_self), Record.id_node ne i up, here⟩
      · exact earlier i before

include ne in
theorem Table.rooted_nodes {nodes : List (Int × Int)} (ordered : parentsFirst [] nodes = true) :
    ∀ s ∈ (Table.nodes provider link nodes).records,
      Rooted link (Table.nodes provider link nodes).records s := by
  intro s member
  obtain ⟨n, given, rfl⟩ := List.mem_map.mp member
  exact rooted_of_parentsFirst ne ordered (fun x inNodes => Table.mem_nodes inNodes) (by simp) n
    given

end Nodes

/-- Page 2 is below page 1 and page 3 below page 2; page 4 stands alone. -/
def pageTable : Table := .nodes "page" "pid" [(1, 0), (2, 1), (3, 2), (4, 0)]

def page (id up : Int) : Record := .node "page" "pid" id up

def pageRef (id : Int) : RecordRef := ⟨"page", .int id⟩

def pageContainer : Container := .tree "page" "pid"

end RecordEditing
