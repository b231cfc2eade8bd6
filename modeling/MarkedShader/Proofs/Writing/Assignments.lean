import MarkedShader.Proofs.Writing.VertexEntry
import Mathlib.Data.List.Flatten
import Mathlib.Data.List.Perm.Subperm

/-! Assignments in the vertex entry. Where a registry assigns each output in one line of its code,
the entry has that line exactly once if the output is active and computed, and otherwise not at all.
Main statement: `outputs_assigned_once`. -/
namespace MarkedShader.Writing
open Text

/-- The lines of a dependency's code without the blanks around them. -/
def snippetLines (d : Dependency) : List Text := (d.transformCode.splitOn '\n').map strip

/-- Whether a line begins with an assignment to an output. -/
def assigns (output line : Text) : Bool :=
  line.startsWith ("output.".toList ++ output ++ " =".toList)

/-- All lines between the braces of the vertex entry. -/
def vertexTexts (settings : Settings) (r : Registry) (g : Graph)
    (blocks : List Block) : List Text :=
  (settings.outputStruct ++ " output = (".toList ++ settings.outputStruct ++ ")0;".toList) ::
    (vertexBody r g blocks ++ ["return output;".toList])

lemma vertexEntry_eq (settings : Settings) (r : Registry) (g : Graph) (blocks : List Block) :
    vertexEntry settings r g blocks =
      .scope (settings.outputStruct ++ " vert(".toList ++ settings.inputStruct ++ " input)".toList)
        (.ofLines (vertexTexts settings r g blocks)) ++ .blank := rfl

/-- A registry by whose code each output that has dependencies is assigned in one line, which no
other output's code has. -/
structure AssignsOnce (r : Registry) : Prop where
  /-- Outputs that have dependencies are named by words. -/
  named : ∀ output, r.dependenciesOf output ≠ [] → IsName output
  target : ∀ output, ∀ d ∈ r.dependenciesOf output, d.target = output
  sources : ∀ output, ((r.dependenciesOf output).map (·.source)).Nodup
  once : ∀ output, r.dependenciesOf output ≠ [] →
    ((r.dependenciesOf output).flatMap snippetLines).countP (assigns output) = 1
  own : ∀ output other, IsName other → other ≠ output →
    ∀ d ∈ r.dependenciesOf output, ∀ l ∈ snippetLines d, assigns other l = false

lemma assigns_iff {output l : Text} :
    assigns output l ↔ ∃ rest, l = "output.".toList ++ (output ++ " =".toList ++ rest) := by
  rw [assigns, startsWith_iff]
  simp only [List.append_assoc]

lemma assigns_of_not_output {output l : Text} (h : l.startsWith "output.".toList = false) :
    assigns output l = false := by
  rw [Bool.eq_false_iff]
  intro ha
  obtain ⟨rest, rfl⟩ := assigns_iff.mp ha
  exact Bool.false_ne_true (h.symm.trans (startsWith_iff.mpr ⟨_, rfl⟩))

/-- A line assigns one output. -/
lemma eq_of_assigns {output other l : Text} (ho : IsName output) (hother : IsName other)
    (h : assigns output l) (h' : assigns other l) : other = output := by
  obtain ⟨rest, rfl⟩ := assigns_iff.mp h
  obtain ⟨rest', he⟩ := assigns_iff.mp h'
  have hsame := congrArg (List.takeWhile isWord) (List.append_cancel_left he)
  have hword : ∀ w t : Text, IsName w → (w ++ " =".toList ++ t).takeWhile isWord = w :=
    fun w t hw => by
    rw [List.append_assoc, List.takeWhile_append_of_pos hw.2, String.toList_ofList]
    simp [show isWord ' ' = false by decide]
  rw [hword _ _ ho, hword _ _ hother] at hsame
  exact hsame.symm

/-- The lines that are left out of a dependency's code assign nothing. -/
lemma countP_transformLines (output : Text) (d : Dependency) :
    (transformLines d.transformCode).countP (assigns output) =
      (snippetLines d).countP (assigns output) := by
  rw [transformLines, snippetLines, List.countP_filter]
  refine List.countP_congr fun l _ => ?_
  rw [Bool.and_eq_true, and_iff_left_iff_imp]
  intro h
  obtain ⟨rest, rfl⟩ := assigns_iff.mp h
  repeat rw [String.toList_ofList]
  rfl

lemma snippetLines_of_mem {d : Dependency} {l : Text} (h : l ∈ transformLines d.transformCode) :
    l ∈ snippetLines d :=
  (List.mem_filter.mp h).1

/-- The declaration of the result assigns no part of it. -/
lemma startsWith_declaration {struct : Text} (h : struct.startsWith "output.".toList = false)
    (rest : Text) : (struct ++ ' ' :: rest).startsWith "output.".toList = false := by
  rw [Bool.eq_false_iff]
  intro hs
  obtain ⟨r, hr⟩ := startsWith_iff.mp hs
  rcases List.append_eq_append_iff.mp hr with ⟨cut, hcut, hrest⟩ | ⟨cut, hcut, -⟩
  · cases cut with
    | nil =>
      exact Bool.false_ne_true
        (h.symm.trans (startsWith_iff.mpr ⟨[], by rw [hcut, List.append_nil, List.append_nil]⟩))
    | cons c cut =>
      obtain rfl : ' ' = c := (List.cons.inj hrest).1
      have hblank : ' ' ∈ "output.".toList := by rw [hcut]; simp
      rw [String.toList_ofList] at hblank
      exact absurd hblank (by decide)
  · exact Bool.false_ne_true (h.symm.trans (startsWith_iff.mpr ⟨cut, hcut⟩))

variable {r : Registry} {g : Graph} {blocks : List Block} {output : Text}

/-- Before the lines of the dependencies and after them nothing is assigned. -/
lemma filter_vertexTexts {settings : Settings}
    (struct : settings.outputStruct.startsWith "output.".toList = false) :
    (vertexTexts settings r g blocks).filter (assigns output) =
      ((firstOfEachKey (g.edges r)).flatMap fun d => transformLines d.transformCode).filter
        (assigns output) := by
  have hnone : ∀ ls : List Text, (∀ l ∈ ls, l.startsWith "output.".toList = false) →
      ls.filter (assigns output) = [] := by
    intro ls h
    rw [List.filter_eq_nil_iff]
    exact fun l hl => by simp [assigns_of_not_output (h l hl)]
  have hdeclaration : ∀ l ∈
      [settings.outputStruct ++ " output = (".toList ++ settings.outputStruct ++ ")0;".toList],
      Text.startsWith l "output.".toList = false := by
    rw [List.forall_mem_singleton, List.append_assoc, List.append_assoc]
    generalize settings.outputStruct ++ ")0;".toList = rest
    rw [String.toList_ofList]
    exact startsWith_declaration struct _
  have hreturn : ∀ l ∈ ["return output;".toList], Text.startsWith l "output.".toList = false := by
    repeat rw [String.toList_ofList]
    decide
  rw [vertexTexts, vertexBody, vertexLines_eq, ← List.singleton_append, List.filter_append,
    List.filter_append, List.filter_append, hnone _ hdeclaration, hnone _ hreturn, hnone _ fun l
    hl => not_output_of_mem_vertexPrelude hl, List.nil_append, List.nil_append, List.append_nil]

/-- The key of an edge to a name tells its two ends. -/
lemma ends_of_key {d e : Dependency} (hd : IsName d.target) (he : IsName e.target)
    (h : d.key = e.key) : d.source = e.source ∧ d.target = e.target := by
  have hlast : ∀ x : Dependency, IsName x.target →
      beforeLast? '>' x.key = some (x.source ++ ['-']) := fun x hx => by
    have hnot : '>' ∉ x.target := fun hc => absurd (hx.2 _ hc) (by decide)
    rw [← beforeLast?_append (x.source ++ ['-']) hnot, Dependency.key, String.toList_ofList]
    simp
  have hsource : d.source = e.source := by
    have := (hlast d hd).symm.trans ((congrArg _ h).trans (hlast e he))
    exact List.append_cancel_right (Option.some.inj this)
  refine ⟨hsource, ?_⟩
  rw [Dependency.key, Dependency.key, hsource] at h
  exact List.append_cancel_left h

lemma nodup_firstOfEachKey (ds : List Dependency) : (firstOfEachKey ds).Nodup :=
  (Firsts.nodup_keys Dependency.key ds).of_map

/-- The first edges of each key that are to compute an output. -/
def edgesTo (r : Registry) (g : Graph) (output : Text) : List Dependency :=
  (firstOfEachKey (g.edges r)).filter fun d => d.target = output

lemma nodup_edgesTo : (edgesTo r g output).Nodup := (nodup_firstOfEachKey _).filter _

/-- More items have no fewer lines of a kind. -/
lemma countP_flatMap_le {α β : Type} {as bs : List α} (distinct : as.Nodup) (h : as ⊆ bs)
    (lines : α → List β) (p : β → Bool) :
    (as.flatMap lines).countP p ≤ (bs.flatMap lines).countP p := by
  obtain ⟨cs, hperm, hsub⟩ := distinct.subperm h
  rw [← (hperm.flatMap_right lines).countP_eq p]
  exact (hsub.flatMap lines).countP_le

/-- Items without lines of a kind may be left out. -/
lemma countP_flatMap_filter {α β : Type} {as : List α} {lines : α → List β} {p : β → Bool}
    {q : α → Bool} (h : ∀ a ∈ as, q a = false → (lines a).countP p = 0) :
    ((as.filter q).flatMap lines).countP p = (as.flatMap lines).countP p := by
  induction as with
  | nil => rfl
  | cons a as ih =>
    have hrest := ih fun b hb => h b (List.mem_cons_of_mem a hb)
    rw [List.flatMap_cons, List.countP_append]
    cases hq : q a with
    | true => rw [List.filter_cons_of_pos hq, List.flatMap_cons, List.countP_append, hrest]
    | false =>
      rw [List.filter_cons_of_neg (by simp [hq]), hrest, h a List.mem_cons_self hq, Nat.zero_add]

namespace AssignsOnce

variable (assigning : AssignsOnce r)

include assigning

lemma target_of_mem_edges {d : Dependency} (h : d ∈ g.edges r) :
    d.target ∈ g.activeNames .output ∧ d ∈ r.dependenciesOf d.target ∧
      g.isActiveInput d.source := by
  obtain ⟨out, hout, hactive, hd, hsource⟩ := Graph.mem_edges.mp h
  rw [assigning.target _ _ hd]
  exact ⟨List.mem_map.mpr ⟨out, List.mem_filter.mpr ⟨hout, hactive⟩, rfl⟩, hd, hsource⟩

lemma isName_target {d : Dependency} (h : d ∈ g.edges r) : IsName d.target :=
  assigning.named _ (List.ne_nil_of_mem (assigning.target_of_mem_edges h).2.1)

/-- The code of an edge assigns no other output than its target. -/
lemma target_eq_of_assigns {d : Dependency} (h : d ∈ g.edges r) (hout : IsName output) {l : Text}
    (hl : l ∈ snippetLines d) (ha : assigns output l) : d.target = output := by
  by_contra hne
  have := assigning.own _ output hout (Ne.symm hne) d (assigning.target_of_mem_edges h).2.1 l hl
  exact Bool.false_ne_true (this.symm.trans ha)

/-- Only the edges to an output assign it. -/
lemma countP_edges (hout : IsName output) :
    ((firstOfEachKey (g.edges r)).flatMap fun d => transformLines d.transformCode).countP
      (assigns output) =
      ((edgesTo r g output).flatMap snippetLines).countP (assigns output) := by
  rw [edgesTo, countP_flatMap_filter]
  · simp only [List.countP_flatMap, Function.comp_def, countP_transformLines]
  · intro d hd hne
    rw [List.countP_eq_zero]
    exact fun l hl ha =>
      of_decide_eq_false hne (assigning.target_eq_of_assigns (mem_firstOfEachKey hd) hout hl ha)

lemma edgesTo_subset : edgesTo r g output ⊆ r.dependenciesOf output := by
  intro d hd
  obtain ⟨hd, htarget⟩ := List.mem_filter.mp hd
  exact of_decide_eq_true htarget ▸ (assigning.target_of_mem_edges (mem_firstOfEachKey hd)).2.1

/-- Dropping edges whose key has been met drops none but repetitions. -/
lemma subset_edgesTo (sound : g.issues r = []) (hactive : output ∈ g.activeNames .output) :
    r.dependenciesOf output ⊆ edgesTo r g output := by
  intro d hd
  obtain ⟨out, hout, rfl⟩ := List.mem_map.mp hactive
  obtain ⟨hout, hon⟩ := List.mem_filter.mp hout
  have hedge : d ∈ g.edges r := Graph.mem_edges_of_issues sound hout hon hd
  have htarget := assigning.target _ d hd
  obtain ⟨e, he, hkey⟩ := exists_firstOfEachKey hedge
  have hemem := mem_firstOfEachKey he
  obtain ⟨hsource, hsame⟩ :=
    ends_of_key (assigning.isName_target hemem) (assigning.isName_target hedge) hkey
  have hed : e ∈ r.dependenciesOf out.name :=
    htarget ▸ hsame ▸ (assigning.target_of_mem_edges hemem).2.1
  obtain rfl : e = d := List.inj_on_of_nodup_map (assigning.sources _) hed hd hsource
  exact List.mem_filter.mpr ⟨he, by simpa using htarget⟩

end AssignsOnce

/-- It is enough to look at the table's entries one by one. -/
lemma AssignsOnce.of_entries (named : ∀ e ∈ r.dependencies, IsName e.1)
    (target : ∀ e ∈ r.dependencies, ∀ d ∈ e.2, d.target = e.1)
    (sources : ∀ e ∈ r.dependencies, (e.2.map (·.source)).Nodup)
    (once : ∀ e ∈ r.dependencies, (e.2.flatMap snippetLines).countP (assigns e.1) = 1)
    (own : ∀ e ∈ r.dependencies, ∀ d ∈ e.2, ∀ l ∈ snippetLines d, assigns e.1 l ∨
      l.startsWith "output.".toList = false) : AssignsOnce r := by
  have hentry : ∀ output, r.dependenciesOf output ≠ [] →
      (output, r.dependenciesOf output) ∈ r.dependencies :=
    fun output => (r.dependenciesOf_mem output).resolve_left
  refine ⟨fun output h => named _ (hentry output h), fun output d hd => ?_, fun output => ?_,
    fun output h => once _ (hentry output h), fun output other hname hne d hd l hl => ?_⟩
  · exact target _ (hentry output (List.ne_nil_of_mem hd)) d hd
  · by_cases h : r.dependenciesOf output = []
    · exact h ▸ List.nodup_nil
    · exact sources _ (hentry output h)
  · have he := hentry output (List.ne_nil_of_mem hd)
    rcases own _ he d hd l hl with ha | hnot
    · exact Bool.eq_false_iff.mpr fun h => hne (eq_of_assigns (named _ he) hname ha h)
    · exact assigns_of_not_output hnot

lemma assignsOnce_standard : AssignsOnce .standard := by
  refine .of_entries ?_ ?_ ?_ ?_ ?_ <;>
    unfold Registry.standard Registry.standardDependencies Registry.computed
  all_goals
    simp only [List.map, snippetLines, assigns]
    repeat rw [String.toList_ofList]
    decide

/-- In the vertex entry a name is assigned at most once, and only as an active output in the code of
an edge from an active input. Without issues every active output that has dependencies is
assigned. -/
theorem outputs_assigned_once (assigning : AssignsOnce r) {settings : Settings}
    (struct : settings.outputStruct.startsWith "output.".toList = false) (g : Graph)
    (blocks : List Block) {output : Text}
    (hout : IsName output) :
    let body := vertexTexts settings r g blocks
    body.countP (assigns output) ≤ 1 ∧
      (∀ l ∈ body, assigns output l → output ∈ g.activeNames .output ∧
        ∃ d ∈ g.edges r, d.target = output ∧ l ∈ snippetLines d ∧ g.isActiveInput d.source) ∧
      (g.issues r = [] → output ∈ g.activeNames .output → r.dependenciesOf output ≠ [] →
        body.countP (assigns output) = 1) := by
  intro body
  have hcount : body.countP (assigns output) =
      ((edgesTo r g output).flatMap snippetLines).countP (assigns output) := by
    rw [List.countP_eq_length_filter, filter_vertexTexts struct, ← List.countP_eq_length_filter,
      assigning.countP_edges hout]
  have hmost : body.countP (assigns output) ≤
      ((r.dependenciesOf output).flatMap snippetLines).countP (assigns output) :=
    hcount ▸ countP_flatMap_le nodup_edgesTo assigning.edgesTo_subset snippetLines _
  refine ⟨?_, fun l hl ha => ?_, fun sound hactive hdeps => ?_⟩
  · by_cases hdeps : r.dependenciesOf output = []
    · rw [hdeps] at hmost
      exact Nat.le_succ_of_le hmost
    · exact assigning.once output hdeps ▸ hmost
  · have hline : l ∈ body.filter (assigns output) := List.mem_filter.mpr ⟨hl, ha⟩
    rw [filter_vertexTexts struct] at hline
    obtain ⟨d, hd, hld⟩ := List.mem_flatMap.mp (List.mem_filter.mp hline).1
    have hedge := mem_firstOfEachKey hd
    obtain rfl := assigning.target_eq_of_assigns hedge hout (snippetLines_of_mem hld) ha
    obtain ⟨hactive, -, hsource⟩ := assigning.target_of_mem_edges hedge
    exact ⟨hactive, d, hedge, rfl, snippetLines_of_mem hld, hsource⟩
  · refine Nat.le_antisymm (assigning.once output hdeps ▸ hmost) ?_
    rw [hcount, ← assigning.once output hdeps]
    exact countP_flatMap_le (assigning.sources output).of_map
      (assigning.subset_edgesTo sound hactive) snippetLines _

/-- Of the two edges to the bitangent one has no code, and the tangent, which is off, is not
assigned. -/
theorem outputs_assigned_once_bitangent :
    let g := Graph.run .standard [.activate "normalWS".toList, .activate "bitangentWS".toList]
    let body := vertexTexts {} .standard g []
    body.countP (assigns "bitangentWS".toList) = 1 ∧
      ∀ l ∈ body, ¬ assigns "tangentWS".toList l := by
  intro g body
  have struct : Text.startsWith ({} : Settings).outputStruct "output.".toList = false := by decide
  have hon :=
    outputs_assigned_once assignsOnce_standard struct g [] (by decide : IsName "bitangentWS".toList)
  have hoff :=
    outputs_assigned_once assignsOnce_standard struct g [] (by decide : IsName "tangentWS".toList)
  refine ⟨hon.2.2 (by decide) (by decide) (by decide), fun l hl ha => ?_⟩
  exact absurd (hoff.2.1 l hl ha).1 (by decide)

end MarkedShader.Writing
