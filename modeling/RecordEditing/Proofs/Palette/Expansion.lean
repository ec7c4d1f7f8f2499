import RecordEditing.Proofs.Palette.Merge
import RecordEditing.Proofs.Palette.Walk

/-!
What a field list lays out. The fields of a legend are those that walks through the sub-palettes lead
to from the tokens listed under it, and a field is visible where the conditions of such a walk hold.
-/
namespace RecordEditing
namespace SubPalettes

/-- A sub-palette owned by the first field lists the second, and has the condition. -/
def Lists (selectors : List String) (entries : List (String × String)) (above below : String)
    (condition : Condition) : Prop :=
  ∃ entry ∈ entries, Selector.owner entry.1 selectors = above ∧
    below ∈ PaletteSource.fieldTokens entry.2 ∧
    Selector.subpaletteCondition entry.1 selectors = condition

variable (selectors : List String)

def opened (entry : String × String) : List Field :=
  (PaletteSource.fieldTokens entry.2).map fun name =>
    { name, visible := some (Selector.subpaletteCondition entry.1 selectors) }

theorem fieldsOf_add (subs : SubPalettes) (entry : String × String) (owner : String) :
    fieldsOf (add selectors subs entry) owner = subs.fieldsOf owner ++
      if Selector.owner entry.1 selectors = owner then opened selectors entry else [] := by
  unfold add fieldsOf
  by_cases same : Selector.owner entry.1 selectors = owner
  · rw [if_pos same, same, Entries.find?_insert_self]
    rfl
  · rw [if_neg same, Entries.find?_insert_of_ne same, List.append_nil]

theorem fieldsOf_ofList (entries : List (String × String)) (owner : String) :
    fieldsOf (ofList selectors entries) owner = entries.flatMap fun entry =>
      if Selector.owner entry.1 selectors = owner then opened selectors entry else [] := by
  have run : ∀ (subs : SubPalettes), fieldsOf (entries.foldl (add selectors) subs) owner =
      subs.fieldsOf owner ++ entries.flatMap fun entry =>
        if Selector.owner entry.1 selectors = owner then opened selectors entry else [] := by
    induction entries with
    | nil =>
      intro subs
      exact (List.append_nil _).symm
    | cons entry entries ih =>
      intro subs
      rw [List.foldl_cons, ih, fieldsOf_add, List.flatMap_cons, List.append_assoc]
  exact run []

theorem mem_fieldsOf_ofList {entries : List (String × String)} {owner : String} {f : Field} :
    f ∈ fieldsOf (ofList selectors entries) owner ↔
      ∃ entry ∈ entries, Selector.owner entry.1 selectors = owner ∧ f ∈ opened selectors entry := by
  rw [fieldsOf_ofList, List.mem_flatMap]
  constructor
  · intro ⟨entry, member, listed⟩
    split at listed
    · next owns => exact ⟨entry, member, owns, listed⟩
    · cases listed
  · intro ⟨entry, member, owns, listed⟩
    exact ⟨entry, member, by rwa [if_pos owns]⟩

theorem shows_ofList {entries : List (String × String)} :
    (ofList selectors entries).Shows = Lists selectors entries := by
  funext above below condition
  apply propext
  constructor
  · intro ⟨f, member, name, visible⟩
    obtain ⟨entry, given, owns, listed⟩ := (mem_fieldsOf_ofList selectors).mp member
    obtain ⟨token, token_mem, rfl⟩ := List.mem_map.mp listed
    exact ⟨entry, given, owns, name ▸ token_mem, Option.some.inj visible⟩
  · intro ⟨entry, given, owns, token_mem, same⟩
    refine ⟨_, (mem_fieldsOf_ofList selectors).mpr ⟨entry, given, owns,
      List.mem_map.mpr ⟨below, token_mem, rfl⟩⟩, rfl, congrArg some same⟩

theorem conditional_ofList (entries : List (String × String)) :
    (ofList selectors entries).Conditional := by
  intro owner f member
  obtain ⟨entry, _, _, listed⟩ := (mem_fieldsOf_ofList selectors).mp member
  obtain ⟨token, _, rfl⟩ := List.mem_map.mp listed
  exact ⟨_, rfl⟩

end SubPalettes

namespace Palette

/-- The palette shows these placements in the legends of their names, each legend once. -/
structure Lays (p : Palette) (placed : String → List Field) : Prop where
  distinct : (p.legends.map Legend.name).Nodup
  shows : ∀ l ∈ p.legends, l.Shows (placed l.name)
  present : ∀ name, placed name ≠ [] → name ∈ p.legends.map Legend.name

variable {p : Palette} {placed : String → List Field}

theorem Lays.ensure (lays : p.Lays placed) (name : String) :
    (p.ensureLegend name).Lays placed ∧
      name ∈ (p.ensureLegend name).legends.map Legend.name := by
  unfold ensureLegend
  by_cases there : Named.has name p.legends = true
  · rw [if_pos there]
    exact ⟨lays, Named.has_iff.mp there⟩
  · rw [if_neg there]
    have new : name ∉ p.legends.map Legend.name := fun old => there (Named.has_iff.mpr old)
    have unplaced : placed name = [] := Classical.byContradiction fun some =>
      new (lays.present name some)
    refine ⟨⟨?_, ?_, ?_⟩, by simp⟩
    · exact @Named.nodup_insertAt Legend _ _ { name } none lays.distinct new
    · intro l member
      rcases List.mem_append.mp member with old | last
      · exact lays.shows l old
      · obtain rfl := List.mem_singleton.mp last
        rw [unplaced]
        exact .empty name
    · intro other some
      rw [List.map_append]
      exact List.mem_append_left _ (lays.present other some)

theorem Lays.update (lays : p.Lays placed) {name : String}
    (there : name ∈ p.legends.map Legend.name) (f : Legend → Legend)
    (keeps : ∀ l, (f l).name = l.name) {more : String → List Field}
    (updated : ∀ l : Legend, l.Shows (placed name) → (f l).Shows (more name))
    (others : ∀ n, n ≠ name → more n = placed n) : (p.updateLegend name f).Lays more := by
  have same : (p.updateLegend name f).legends.map Legend.name = p.legends.map Legend.name :=
    @Named.map_name_update Legend _ name f keeps p.legends
  constructor
  · rw [same]
    exact lays.distinct
  · intro l member
    rcases (Named.mem_update lays.distinct).mp member with ⟨k, old, rfl, rfl⟩ | ⟨old, other⟩
    · rw [keeps k]
      exact updated k (lays.shows k old)
    · rw [others l.name other]
      exact lays.shows l old
  · intro n some
    rw [same]
    by_cases here : n = name
    · rw [here]
      exact there
    · rw [others n here] at some
      exact lays.present n some

/-- The field tokens that are listed under a legend, the fields before the next legend token being
listed under the one that is open. -/
def tokensUnder (legend : String) : String → List String → List String
  | _, [] => []
  | current, token :: rest =>
    match PaletteSource.legendToken? token with
    | some (name, _) => tokensUnder legend name rest
    | none =>
      if current = legend then token :: tokensUnder legend current rest
      else tokensUnder legend current rest

def placementsOf (subs : SubPalettes) (tokens : List String) : List Field :=
  tokens.flatMap fun token => subs.placements { name := token }

theorem Lays.named_iff (lays : p.Lays placed) {legend name : String} :
    (∃ l ∈ p.legends, l.name = legend ∧ ∃ x ∈ l.fields, x.name = name) ↔
      ∃ x ∈ placed legend, x.name = name := by
  constructor
  · rintro ⟨l, member, rfl, named⟩
    exact List.mem_map.mp (((lays.shows l member).names name).mp (List.mem_map.mpr named))
  · intro ⟨x, given, named⟩
    obtain ⟨l, member, rfl⟩ := List.mem_map.mp (lays.present legend (List.ne_nil_of_mem given))
    have shown := ((lays.shows l member).names name).mpr (List.mem_map.mpr ⟨x, given, named⟩)
    exact ⟨l, member, rfl, List.mem_map.mp shown⟩

variable {subs : SubPalettes} {state : Reading} {token : String}

theorem placed_iff_walk (conditional : subs.Conditional) {tokens : List String} {name : String} :
    (∃ x ∈ placementsOf subs tokens, x.name = name) ↔
      ∃ token ∈ tokens, ∃ cs, Walk subs.Shows token cs name := by
  constructor
  · rintro ⟨x, member, rfl⟩
    obtain ⟨token, listed, placed⟩ := List.mem_flatMap.mp member
    obtain ⟨cs, walk, _⟩ := SubPalettes.behind_of_mem_placements conditional placed
    exact ⟨token, listed, cs, walk⟩
  · intro ⟨token, listed, cs, walk⟩
    obtain ⟨x, placed, named, _⟩ :=
      @SubPalettes.mem_placements_of_walk _ conditional { name := token } _ _ walk
    exact ⟨x, List.mem_flatMap.mpr ⟨token, listed, placed⟩, named⟩

theorem placed_visible_iff_walk (conditional : subs.Conditional) {tokens : List String}
    {name : String} {form : FormState} :
    (∃ x ∈ placementsOf subs tokens, x.name = name ∧ x.isVisible form = true) ↔
      ∃ token ∈ tokens, ∃ cs, Walk subs.Shows token cs name ∧
        ∀ c ∈ cs, c.holds form = true := by
  constructor
  · rintro ⟨x, member, rfl, shown⟩
    obtain ⟨token, listed, placed⟩ := List.mem_flatMap.mp member
    obtain ⟨cs, walk, visible⟩ := SubPalettes.behind_of_mem_placements conditional placed
    exact ⟨token, listed, cs, walk, ((visible form).mp shown).2⟩
  · intro ⟨token, listed, cs, walk, holds⟩
    obtain ⟨x, placed, named, visible⟩ :=
      @SubPalettes.mem_placements_of_walk _ conditional { name := token } _ _ walk
    -- A token of the list has no condition of its own.
    exact ⟨x, List.mem_flatMap.mpr ⟨token, listed, placed⟩, named, visible form rfl holds⟩

theorem readToken_legend {name : String} {hidden : Bool}
    (opens : PaletteSource.legendToken? token = some (name, hidden))
    (lays : state.palette.Lays placed) :
    (readToken subs state token).palette.Lays placed ∧
      (readToken subs state token).legend = name := by
  unfold readToken
  rw [opens]
  obtain ⟨ensured, there⟩ := lays.ensure name
  refine ⟨ensured.update there ({ · with isOpen := !hidden }) (fun _ => rfl) ?_
    (fun _ _ => rfl), rfl⟩
  intro l shows
  exact ⟨shows.distinct, shows.names, shows.visible⟩

theorem readToken_field (plain : PaletteSource.legendToken? token = none)
    (lays : state.palette.Lays placed) :
    (readToken subs state token).palette.Lays (fun legend =>
      placed legend ++ placementsOf subs (if state.legend = legend then [token] else [])) ∧
      (readToken subs state token).legend = state.legend := by
  unfold readToken
  rw [plain]
  obtain ⟨ensured, there⟩ := lays.ensure state.legend
  refine ⟨ensured.update there _ (Legend.name_addAll _) ?_ ?_, rfl⟩
  · intro l shows
    have added := Legend.shows_addAll shows (subs.placements { name := token })
    simpa [placementsOf] using added
  · intro n other
    simp [placementsOf, Ne.symm other]

theorem lays_readTokens (tokens : List String) (lays : state.palette.Lays placed) :
    (tokens.foldl (readToken subs) state).palette.Lays fun legend =>
      placed legend ++ placementsOf subs (tokensUnder legend state.legend tokens) := by
  induction tokens generalizing state placed with
  | nil => simpa [tokensUnder, placementsOf] using lays
  | cons token tokens ih =>
    rw [List.foldl_cons]
    cases opens : PaletteSource.legendToken? token with
    | some opened =>
      obtain ⟨laid, current⟩ := readToken_legend opens lays
      have rest := ih laid
      simp only [current] at rest
      simpa only [tokensUnder, opens] using rest
    | none =>
      obtain ⟨laid, current⟩ := readToken_field opens lays
      have rest := ih laid
      simp only [current] at rest
      have split : ∀ legend, tokensUnder legend state.legend (token :: tokens) =
          (if state.legend = legend then [token] else []) ++
            tokensUnder legend state.legend tokens := by
        intro legend
        simp only [tokensUnder, opens]
        split <;> rfl
      simp only [split, placementsOf, List.flatMap_append]
      simpa only [placementsOf, List.append_assoc] using rest

/-- The field tokens that a field list has for a legend. -/
def listed (fields legend : String) : List String :=
  tokensUnder legend unnamedLegend (PaletteSource.fieldTokens fields)

theorem lays_compile (subs : SubPalettes) (selectors : List String) (selector fields : String) :
    (compile subs selectors selector fields none).Lays fun legend =>
      placementsOf subs (listed fields legend) := by
  have blank : Lays { name := selector, condition := Selector.paletteCondition selector selectors }
      (fun _ => []) :=
    ⟨.nil, fun _ member => absurd member List.not_mem_nil, fun _ some => absurd rfl some⟩
  exact @lays_readTokens _ subs ⟨_, unnamedLegend⟩ (PaletteSource.fieldTokens fields) blank

end Palette

/-- A palette that is compiled anew has a field in a legend if and only if a walk through the
sub-palettes leads to it from a token listed under the legend, and the field is visible if and only
if the conditions of such a walk hold. -/
theorem field_visible_iff_walk (selectors : List String) (entries : List (String × String))
    (selector fields : String) :
    (∀ legend name,
      (∃ l ∈ (Palette.compile (SubPalettes.ofList selectors entries) selectors selector fields
          none).legends, l.name = legend ∧ ∃ x ∈ l.fields, x.name = name) ↔
        ∃ token ∈ Palette.listed fields legend, ∃ cs,
          Walk (SubPalettes.Lists selectors entries) token cs name) ∧
    ∀ l ∈ (Palette.compile (SubPalettes.ofList selectors entries) selectors selector fields
        none).legends, ∀ x ∈ l.fields, ∀ form,
      x.isVisible form = true ↔
        ∃ token ∈ Palette.listed fields l.name, ∃ cs,
          Walk (SubPalettes.Lists selectors entries) token cs x.name ∧
            ∀ c ∈ cs, c.holds form = true := by
  have lays := Palette.lays_compile (SubPalettes.ofList selectors entries) selectors selector fields
  have conditional := SubPalettes.conditional_ofList selectors entries
  rw [← SubPalettes.shows_ofList]
  constructor
  · intro legend name
    exact lays.named_iff.trans (Palette.placed_iff_walk conditional)
  · intro l member x within form
    rw [(lays.shows l member).visible x within form]
    exact Palette.placed_visible_iff_walk conditional

end RecordEditing
