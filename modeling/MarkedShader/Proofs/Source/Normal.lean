import MarkedShader.Proofs.Graph.Standing
import MarkedShader.Proofs.Source.Stops

/-! What reading leaves of a source, whatever the source is: code without a margin, declarations
without blanks around them, graphs that grow from the registry, and no render state that overrides
nothing. -/
namespace MarkedShader

/-- A pass as reading leaves it. -/
structure Pass.Normal (p : Pass) : Prop where
  codes : ∀ b ∈ p.blocks, Text.dedent b.code = b.code
  graph : ∀ g, p.graph = some g → g.Standing .standard ∧ g.HasRequired .standard ∧ g.Unnumbered
  renderState : ∀ st, p.renderState = some st → st.hasOverrides

/-- A property as reading leaves it: a declaration of its own has no blanks around it and has been
asked for a texture. -/
structure Property.Normal (p : Property) : Prop where
  stripped : Text.strip p.rawDeclaration = p.rawDeclaration
  texture : p.rawDeclaration ≠ [] → p.kind.isTexture → p.defaultTexture = [] →
    (Source.defaultTexture? p.rawDeclaration).getD [] = []

namespace Source
open Text

variable {settings : Settings} {pre : Text}

lemma strip_strip (t : Text) : strip (strip t) = strip t := trimBoth_trimBoth _ t

lemma strip_declarationAfter (pre : Text) (following : List Text) :
    strip (declarationAfter pre following) = declarationAfter pre following := by
  simp only [declarationAfter]
  generalize (following.take 3).takeWhile _ = near
  cases hfound : ((near.map strip).find? fun l => !l.isEmpty && !startsWith l "//".toList).filter
    isPropertyDeclaration with
  | none => rfl
  | some t =>
    rw [Option.filter_eq_some_iff] at hfound
    obtain ⟨l, -, rfl⟩ := List.mem_map.mp (List.mem_of_find?_eq_some hfound.1)
    exact strip_strip l

lemma normal_propertyOf (pre : Text) (attributes : Attributes) (following : List Text) :
    (propertyOf pre attributes following).Normal := by
  have hraw : (propertyOf pre attributes following).rawDeclaration = [] ∨
      (propertyOf pre attributes following).rawDeclaration = declarationAfter pre following := by
    simp only [propertyOf]
    exact (ite_eq_or_eq ..)
  have htexture : (propertyOf pre attributes following).defaultTexture =
      if (propertyOf pre attributes following).kind.isTexture &&
        (attributes.getD "texture" []).isEmpty then
        (defaultTexture? (declarationAfter pre following)).getD []
          else attributes.getD "texture" [] := rfl
  refine ⟨?_, fun hne hkind hnone => ?_⟩
  · rcases hraw with hraw | hraw
    · rw [hraw]
      rfl
    · rw [hraw, strip_declarationAfter]
  · rw [hraw.resolve_left hne]
    rw [hkind, hnone, Bool.true_and] at htexture
    split_ifs at htexture with hempty
    · exact htexture.symm
    · exact absurd (htexture ▸ rfl) hempty

lemma normal_properties (pre : Text) (ls : List Text) : ∀ p ∈ (properties pre ls).1, p.Normal := by
  unfold properties
  generalize 0 = i, ([] : List Text) = known
  induction ls generalizing i known with
  | nil => exact fun _ hp => absurd hp List.not_mem_nil
  | cons l ls ih =>
    rw [propertiesFrom]
    split
    · exact ih _ _
    · simp only
      split_ifs
      · exact ih _ _
      · exact ih _ _
      · exact List.forall_mem_cons.mpr ⟨normal_propertyOf _ _ _, ih _ _⟩

lemma not_mem_uncomment {c : Char} {l : Text} (h : c ∉ l) : c ∉ uncomment l := by
  unfold uncomment
  simp only
  split
  · rename_i rest hrest
    rw [after?_eq_some_iff] at hrest
    have hsub : rest ⊆ l :=
      fun d hd => (List.dropWhile_sublist _).subset (hrest ▸ List.mem_append_right _ hd)
    rw [List.mem_append, not_or]
    exact ⟨fun hc => h ((List.takeWhile_prefix _).subset hc), fun hc => h (hsub hc)⟩
  · split_ifs
    · exact List.not_mem_nil
    · exact h

lemma code_take {body : Body} {l : Text} (hcode : ∀ k ∈ body.code, '\n' ∉ k) (hl : '\n' ∉ l) :
    ∀ k ∈ (body.take pre l).code, '\n' ∉ k := by
  unfold Body.take
  split
  · exact hcode
  · split
    · split_ifs <;> exact hcode
    · have hline : '\n' ∉ if body.disabled then uncomment l else l := by
        split_ifs
        · exact not_mem_uncomment hl
        · exact hl
      by_cases hdisabled : Marker.isDisabled pre l = true
      · rw [if_pos hdisabled]
        exact hcode
      · rw [if_neg hdisabled]
        intro k hk
        rcases List.mem_append.mp hk with hk | hk
        · exact hcode k hk
        · exact List.mem_singleton.mp hk ▸ hline

lemma dedent_code_readBlock (pre : Text) (start : Nat) (title : Text) (inSection : Section)
    {rest : List Text} (hrest : ∀ l ∈ rest, '\n' ∉ l) :
    dedent (readBlock pre start title inSection rest).1.code =
      (readBlock pre start title inSection rest).1.code := by
  have hbody : ∀ k ∈ ((rest.takeWhile fun l => !endsBody pre l).foldl (Body.take pre) {}).code,
      '\n' ∉ k := by
    refine List.foldlRecOn _ _ (motive := fun body : Body => ∀ k ∈ body.code, '\n' ∉ k)
      (fun _ hk => absurd hk List.not_mem_nil)
      fun body hb l hl => code_take hb (hrest l ((List.takeWhile_prefix _).subset hl))
  change dedent (trimBoth _ (joinLines (dedentLines _))) = trimBoth _ (joinLines (dedentLines _))
  exact dedent_trimBoth hbody

/-- The blocks that a walk finds have dedented code, if the lines are lines. -/
lemma Finds.dedented {σ : Type} {view : σ → Parts}
    {step : Nat → σ → Text → List Text → σ × Nat} (h : Finds settings view step) {all : List Text}
    (hall : ∀ l ∈ all, '\n' ∉ l) {i : Nat} {s : σ} {ls : List Text} (inside : ls <+: all.drop i)
    (start : ∀ b ∈ (view s).blocks, dedent b.code = b.code) :
    ∀ b ∈ (view (walk step i s ls)).blocks, dedent b.code = b.code := by
  refine walk_preserves (fun s => ∀ b ∈ (view s).blocks, dedent b.code = b.code) ?_ inside start
  intro i s l rest inside old
  rcases h.cases i s l rest with ⟨title, inSection, b, ws, -, hread, hblocks, -⟩ | ⟨-, hblocks, -⟩
  · have hrest : ∀ k ∈ rest, '\n' ∉ k := fun k hk =>
      hall k ((List.drop_sublist _ _).subset (inside.subset (List.mem_cons_of_mem _ hk)))
    have hcode := dedent_code_readBlock settings.tagPrefix i title inSection hrest
    rw [hread] at hcode
    rw [hblocks]
    intro b' hb
    rcases List.mem_append.mp hb with hb | hb
    · exact old b' hb
    · exact List.mem_singleton.mp hb ▸ hcode
  · rw [hblocks]
    exact old

variable {ls : List Text} (hls : ∀ l ∈ ls, '\n' ∉ l)
include hls

lemma dedented_partsOutside (settings : Settings) (es : List Extent) :
    ∀ b ∈ (partsOutside settings ls es).blocks, dedent b.code = b.code := by
  refine List.foldlRecOn (gaps ls es) _ (motive := fun p : Parts => ∀ b ∈ p.blocks, dedent b.code =
    b.code) (fun _ hb => absurd hb List.not_mem_nil) fun p hp g _ => ?_
  exact (finds_parts settings).dedented hls (prefix_between ls g.1 g.2) hp

lemma normal_readPass (settings : Settings) (cursor : Nat) (e : Extent) :
    (readPass settings .standard ls cursor e).1.Normal := by
  rw [readPass]
  cases e.usePath with
  | some path =>
    exact ⟨fun _ hb => absurd hb List.not_mem_nil, fun _ hg => absurd hg (by simp [Pass.usePass]),
      fun _ hst => absurd hst (by simp [Pass.usePass])⟩
  | none =>
    refine ⟨?_, ?_, ?_⟩
    · exact (finds_content settings).dedented hls (prefix_between ls e.first e.last)
        (s := ({} : Content)) fun _ hb => absurd hb List.not_mem_nil
    · intro g hg
      obtain rfl := Option.some.inj hg
      exact ⟨(Graph.standing_standard.applyStruct .input _).applyStruct .output _,
        (Graph.hasRequired_standard.applyStruct .input _).applyStruct .output _,
        (Graph.unnumbered_standard.applyStruct .input _).applyStruct .output _⟩
    · intro st hst
      simp only at hst
      split_ifs at hst with hover
      · exact Option.some.inj hst ▸ hover

lemma normal_readPasses (settings : Settings) (cursor : Nat) (es : List Extent) :
    ∀ p ∈ (readPasses settings .standard ls cursor es).1, p.Normal := by
  induction es generalizing cursor with
  | nil => exact fun _ hp => absurd hp List.not_mem_nil
  | cons e es ih =>
    exact List.forall_mem_cons.mpr ⟨normal_readPass hls settings cursor e, ih (e.last+1)⟩

omit hls in
lemma normal_attachTo {outside : Parts} {p : Pass}
    (houtside : ∀ b ∈ outside.blocks, dedent b.code = b.code) (h : p.Normal) :
    (outside.attachTo p).Normal where
  codes b hb := (mem_attachTo.mp hb).elim (houtside b) (h.codes b)
  graph g hg := by
    obtain ⟨before, hbefore, rfl⟩ := Option.map_eq_some_iff.mp hg
    obtain ⟨standing, required, unnumbered⟩ := h.graph before hbefore
    exact ⟨(standing.applyStruct .input _).applyStruct .output _,
      (required.applyStruct .input _).applyStruct .output _,
      (unnumbered.applyStruct .input _).applyStruct .output _⟩
  renderState := h.renderState

omit hls in
/-- What is read of any source. -/
theorem normal_documentOf (settings : Settings) (content : Text) :
    (∀ p ∈ (documentOf settings .standard content).1.properties, p.Normal) ∧
      ∀ p ∈ (documentOf settings .standard content).1.passes, p.Normal := by
  have hls : ∀ l ∈ lines content, '\n' ∉ l := fun _ => not_mem_of_mem_splitOn
  refine ⟨normal_properties _ _, forall_attach (normal_readPasses hls settings 0 _) fun p hp => ?_⟩
  exact normal_attachTo (dedented_partsOutside hls settings _) hp

end Source
end MarkedShader
