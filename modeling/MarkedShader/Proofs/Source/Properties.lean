import MarkedShader.Proofs.Source.Declaration

/-! The properties of a document are read back from their markers and declarations. -/
namespace MarkedShader

/-- The property that is read where a property is written. -/
def Property.rewritten (p : Property) : Property :=
  let declaration := Text.strip p.declaration
  let q : Property := { p with
    minValue := if p.kind = .range then Source.numberOr (.ofNat 0) p.minValue.plain else .ofNat 0
    maxValue := if p.kind = .range then Source.numberOr (.ofNat 1) p.maxValue.plain else .ofNat 1
    defaultTexture := if p.kind.isTexture && p.defaultTexture.isEmpty then
      (Source.defaultTexture? declaration).getD []
      else p.defaultTexture }
  { q with rawDeclaration := if declaration = q.synthesize then [] else declaration }

namespace Source
open Text

variable {p : Property}

def propertyKeys : List Text :=
  ["name", "display", "type", "default", "min", "max", "role", "texture"].map String.toList

lemma keys_propertyAttributes (p : Property) :
    ((Writing.propertyAttributes p).map (·.1)).Sublist propertyKeys := by
  have hbounds :
      ((if p.kind = .range then [("min".toList, p.minValue.plain), ("max".toList, p.maxValue.plain)]
      else []).map (·.1)).Sublist ["min".toList, "max".toList] := by
    split_ifs
    · exact List.Sublist.refl _
    · exact List.nil_sublist _
  have hone : ∀ (k : String) (t : Text),
      ((if t.isEmpty then [] else [(k.toList, t)]).map (·.1)).Sublist [k.toList] := by
    intro k t
    split_ifs
    · exact List.nil_sublist _
    · exact List.Sublist.refl _
  rw [Writing.propertyAttributes, List.map_append, List.map_append, List.map_append]
  exact (((List.Sublist.refl _).append hbounds).append (hone _ _)).append (hone _ _)

lemma nodup_propertyAttributes (p : Property) : ((Writing.propertyAttributes p).map (·.1)).Nodup :=
  (show propertyKeys.Nodup by decide).sublist (keys_propertyAttributes p)

lemma isKey_propertyAttributes (p : Property) :
    ∀ q ∈ Writing.propertyAttributes p, Attributes.IsKey q.1 := by
  have hkeys : ∀ k ∈ propertyKeys, Attributes.IsKey k := by decide
  exact fun q hq => hkeys q.1 ((keys_propertyAttributes p).subset (List.mem_map_of_mem hq))

lemma plain_name {t : Text} (h : IsName t) (pre : Text) : Plain pre t := by
  have hfree : ∀ c ∈ ['"', '\n', '\r', '\x7b', '\x7d', '/', '['], isWord c = false := by decide
  exact plain_of_free fun c hc => h.not_mem (hfree c hc)

lemma isName_kind (k : PropertyKind) : IsName k.name := by cases k <;> decide

lemma mem_propertyAttributes {q : Text × Text} : q ∈ Writing.propertyAttributes p ↔
    q ∈ [("name".toList, p.name), ("display".toList, p.displayName), ("type".toList, p.kind.name),
      ("default".toList, p.defaultValue)] ∨
    (p.kind = .range ∧
      (q = ("min".toList, p.minValue.plain) ∨ q = ("max".toList, p.maxValue.plain))) ∨
    (p.role ≠ [] ∧ q = ("role".toList, p.role)) ∨
      (p.defaultTexture ≠ [] ∧ q = ("texture".toList, p.defaultTexture)) := by
  have hone : ∀ (k : String) (t : Text), q ∈ (if t.isEmpty then [] else [(k.toList, t)]) ↔
      t ≠ [] ∧ q = (k.toList, t) := by
    intro k t
    cases t <;> simp
  have hbounds : q ∈ (if p.kind = .range then
      [("min".toList, p.minValue.plain), ("max".toList, p.maxValue.plain)] else []) ↔
      p.kind = .range ∧
        (q = ("min".toList, p.minValue.plain) ∨ q = ("max".toList, p.maxValue.plain)) := by
    split_ifs with h <;> simp [h]
  rw [Writing.propertyAttributes, List.mem_append, List.mem_append, List.mem_append, hone, hone,
    hbounds, or_assoc, or_assoc]

/-- What holds of the texts of a property holds of what its marker has in quotes. -/
lemma forall_propertyAttributes {holds : Text → Prop}
    (name : holds p.name) (displayName : holds p.displayName) (kind : holds p.kind.name)
    (defaultValue : holds p.defaultValue) (bounds : holds p.minValue.plain ∧ holds p.maxValue.plain)
    (role : holds p.role) (texture : holds p.defaultTexture) :
    ∀ q ∈ Writing.propertyAttributes p, holds q.2 := by
  intro q hq
  rcases mem_propertyAttributes.mp hq with hq | ⟨-, rfl | rfl⟩ | ⟨-, rfl⟩ | ⟨-, rfl⟩
  · simp only [List.mem_cons, List.not_mem_nil, or_false] at hq
    rcases hq with rfl | rfl | rfl | rfl
    · exact name
    · exact displayName
    · exact kind
    · exact defaultValue
  · exact bounds.1
  · exact bounds.2
  · exact role
  · exact texture

lemma plain_propertyAttributes (h : p.Legible) :
    ∀ q ∈ Writing.propertyAttributes p, Plain ({} : Settings).tagPrefix q.2 :=
  forall_propertyAttributes (plain_name h.name _) h.displayName
    (plain_name (isName_kind p.kind) _) h.defaultValue
    ⟨Number.plain_plain _ p.minValue, Number.plain_plain _ p.maxValue⟩ h.role h.defaultTexture

section
variable {pre : Text} (h : p.Markable pre)
include h

lemma quotable_propertyAttributes : ∀ q ∈ Writing.propertyAttributes p, Quotable pre q.2 :=
  forall_propertyAttributes (plain_name h.name _).quotable h.displayName
    (plain_name (isName_kind p.kind) _).quotable
    h.defaultValue ⟨(Number.plain_plain _ p.minValue).quotable,
      (Number.plain_plain _ p.maxValue).quotable⟩ h.role h.defaultTexture

/-- The attributes of a property are read back. -/
theorem read_propertyAttributes :
    Attributes.read (Writing.propertyAttributes p).write = Writing.propertyAttributes p :=
  Attributes.read_write (isKey_propertyAttributes p) (fun q hq =>
    ⟨(quotable_propertyAttributes h q hq).quote, (quotable_propertyAttributes h q hq).newline⟩)
    (nodup_propertyAttributes p)

/-- Under any margin a property marker is read as the property. -/
lemma property?_margin (hpre : ∀ c ∈ pre, isWord c) {margin : Text} (hm : IsMargin margin) :
    Marker.property? pre (margin ++ Marker.property pre (Writing.propertyAttributes p)) =
      some (Writing.propertyAttributes p).write :=
  search_attributes hpre hm.isBlank (List.cons_ne_nil _ _)
    (Attributes.isName_of_isKey (isKey_propertyAttributes p)) (quotable_propertyAttributes h)

end

lemma kind_read (k : PropertyKind) : PropertyKind.read k.name = k := by cases k <;> decide

/-- A key that no attribute is written under. -/
lemma not_mem_propertyAttributes {k : String} (hfirst : k ∉ ["name", "display", "type", "default"])
    (hbounds : p.kind = .range → k ∉ ["min", "max"]) (hrole : p.role ≠ [] → k ≠ "role")
    (htexture : p.defaultTexture ≠ [] → k ≠ "texture") :
    k.toList ∉ (Writing.propertyAttributes p).map (·.1) := by
  intro hk
  obtain ⟨q, hq, hqk⟩ := List.mem_map.mp hk
  simp only [List.mem_cons, List.not_mem_nil, or_false, not_or] at hfirst hbounds
  rcases mem_propertyAttributes.mp hq with hq | ⟨hr, rfl | rfl⟩ | ⟨hr, rfl⟩ | ⟨ht, rfl⟩
  · simp only [List.mem_cons, List.not_mem_nil, or_false] at hq
    rcases hq with rfl | rfl | rfl | rfl
    · exact hfirst.1 (String.toList_inj.mp hqk).symm
    · exact hfirst.2.1 (String.toList_inj.mp hqk).symm
    · exact hfirst.2.2.1 (String.toList_inj.mp hqk).symm
    · exact hfirst.2.2.2 (String.toList_inj.mp hqk).symm
  · exact (hbounds hr).1 (String.toList_inj.mp hqk).symm
  · exact (hbounds hr).2 (String.toList_inj.mp hqk).symm
  · exact hrole hr (String.toList_inj.mp hqk).symm
  · exact htexture ht (String.toList_inj.mp hqk).symm

section
variable (p)

lemma getD_name : (Writing.propertyAttributes p).getD "name" [] = p.name :=
  Entries.getD_of_mem (nodup_propertyAttributes p)
    (mem_propertyAttributes.mpr (.inl List.mem_cons_self)) _

lemma getD_display : (Writing.propertyAttributes p).getD "display" [] = p.displayName :=
  Entries.getD_of_mem (nodup_propertyAttributes p)
    (mem_propertyAttributes.mpr (.inl (List.mem_cons_of_mem _ List.mem_cons_self))) _

lemma getD_type (default : Text) :
    (Writing.propertyAttributes p).getD "type" default = p.kind.name :=
  Entries.getD_of_mem (nodup_propertyAttributes p) (mem_propertyAttributes.mpr
    (.inl (List.mem_cons_of_mem _ (List.mem_cons_of_mem _ List.mem_cons_self)))) _

lemma getD_default : (Writing.propertyAttributes p).getD "default" [] = p.defaultValue :=
  Entries.getD_of_mem (nodup_propertyAttributes p) (mem_propertyAttributes.mpr
    (.inl (List.mem_cons_of_mem
      _ (List.mem_cons_of_mem _ (List.mem_cons_of_mem _ List.mem_cons_self))))) _

lemma getD_min (default : Text) :
    (Writing.propertyAttributes p).getD "min" default = if p.kind = .range then p.minValue.plain
      else default := by
  split_ifs with h
  · exact Entries.getD_of_mem (nodup_propertyAttributes p)
      (mem_propertyAttributes.mpr (.inr (.inl ⟨h, .inl rfl⟩))) _
  · exact Entries.getD_of_not_mem
      (not_mem_propertyAttributes (by decide) (fun hr => absurd hr h) (fun _ => by decide)
      fun _ => by decide) _

lemma getD_max (default : Text) :
    (Writing.propertyAttributes p).getD "max" default = if p.kind = .range then p.maxValue.plain
      else default := by
  split_ifs with h
  · exact Entries.getD_of_mem (nodup_propertyAttributes p)
      (mem_propertyAttributes.mpr (.inr (.inl ⟨h, .inr rfl⟩))) _
  · exact Entries.getD_of_not_mem
      (not_mem_propertyAttributes (by decide) (fun hr => absurd hr h) (fun _ => by decide)
      fun _ => by decide) _

lemma getD_role : (Writing.propertyAttributes p).getD "role" [] = p.role := by
  by_cases h : p.role = []
  · rw [h]
    exact Entries.getD_of_not_mem
      (not_mem_propertyAttributes (by decide) (fun _ => by decide) (fun hr => absurd h hr)
      fun _ => by decide) _
  · exact Entries.getD_of_mem (nodup_propertyAttributes p)
      (mem_propertyAttributes.mpr (.inr (.inr (.inl ⟨h, rfl⟩)))) _

lemma getD_texture : (Writing.propertyAttributes p).getD "texture" [] = p.defaultTexture := by
  by_cases h : p.defaultTexture = []
  · rw [h]
    exact Entries.getD_of_not_mem
      (not_mem_propertyAttributes (by decide) (fun _ => by decide) (fun _ => by decide)
      fun ht => absurd h ht) _
  · exact Entries.getD_of_mem (nodup_propertyAttributes p)
      (mem_propertyAttributes.mpr (.inr (.inr (.inr ⟨h, rfl⟩)))) _

end

lemma propertyOf_written {pre margin : Text} (h : DeclaresUnmarked pre p.declaration)
    (hm : IsMargin margin) (rest : List Text) :
    propertyOf pre (Writing.propertyAttributes p)
      ((margin ++ p.declaration) :: rest) = p.rewritten := by
  have hmin : numberOr (.ofNat 0) ['0'] = .ofNat 0 := by decide
  have hmax : numberOr (.ofNat 1) ['1'] = .ofNat 1 := by decide
  have hlow : numberOr (.ofNat 0) (if p.kind = .range then p.minValue.plain else ['0']) =
      if p.kind = .range then numberOr (.ofNat 0) p.minValue.plain else .ofNat 0 := by
    split_ifs
    · rfl
    · exact hmin
  have hhigh : numberOr (.ofNat 1) (if p.kind = .range then p.maxValue.plain else ['1']) =
      if p.kind = .range then numberOr (.ofNat 1) p.maxValue.plain else .ofNat 1 := by
    split_ifs
    · rfl
    · exact hmax
  simp only [propertyOf, getD_name, getD_display, getD_type, getD_default, getD_min, getD_max,
    getD_role, getD_texture, h.declarationAfter hm, kind_read, hlow, hhigh]
  rfl

def propertyMarker (p : Property) : Text :=
  marginAt 2 ++ Marker.property ({} : Settings).tagPrefix (Writing.propertyAttributes p)

/-- The lines that a property is written in. -/
def propertyLines (p : Property) : List Text := [propertyMarker p, marginAt 2 ++ p.declaration]

lemma property?_propertyMarker (h : p.Legible) :
    Marker.property? ({} : Settings).tagPrefix (propertyMarker p) =
      some (Writing.propertyAttributes p).write :=
  property?_margin h.markable isWord_tagPrefix (isMargin_marginAt 2)

/-- Below a property marker nothing but the property is found. -/
theorem outside_propertyMarker (h : p.Legible) :
    Outside (propertyMarker p) ∧ IsLine (propertyMarker p) ∧
    Marker.global? ({} : Settings).tagPrefix (propertyMarker p) = none := by
  have hplain := plain_propertyAttributes h
  have hkeys := Attributes.isName_of_isKey (isKey_propertyAttributes p)
  have hquotable := quotable_propertyAttributes h.markable
  have hb := not_infix_write isWord_tagPrefix hkeys hquotable
  refine ⟨outside_marker (spaces_marginAt 2) (by decide) hb ?_, ⟨?_, ?_⟩, ?_⟩
  · exact not_mem_write hkeys hquotable (by decide) (by decide) fun q hq => (hplain q hq).opens
  · refine not_mem_marker isWord_tagPrefix (isMargin_marginAt 2) (by decide) (by decide) ?_
    exact not_mem_write hkeys hquotable (by decide) (by decide) fun q hq => (hplain q hq).newline
  · rw [propertyMarker, Marker.property, Marker.getLast?_format]
    decide
  · exact (Marker.lacks_format isWord_tagPrefix (isBlank_of_spaces (spaces_marginAt 2)) hb
      (by decide)).global?

/-- Lines without a property marker are skipped. -/
theorem propertiesFrom_skip {pre : Text} {ls : List Text}
    (h : ∀ l ∈ ls, Marker.property? pre l = none) (i : Nat) (known rest : List Text) :
    propertiesFrom pre i known (ls ++ rest) = propertiesFrom pre (i + ls.length) known rest := by
  induction ls generalizing i with
  | nil => rfl
  | cons l ls ih =>
    rw [List.cons_append, propertiesFrom, h l List.mem_cons_self]
    simp only
    rw [ih (fun l hl => h l (List.mem_cons_of_mem _ hl)), List.length_cons,
      Nat.add_right_comm, Nat.add_assoc]

lemma propertiesFrom_none {pre : Text} {ls : List Text}
    (h : ∀ l ∈ ls, Marker.property? pre l = none) (i : Nat) (known : List Text) :
    propertiesFrom pre i known ls = ([], []) := by
  rw [← List.append_nil ls, propertiesFrom_skip h, propertiesFrom]

/-- The lines of a property under a margin. -/
def propertyLinesUnder (pre margin : Text) (p : Property) : List Text :=
  [margin ++ Marker.property pre (Writing.propertyAttributes p), margin ++ p.declaration]

/-- The lines of the properties: a marker and a declaration for each. -/
theorem lines_properties {settings : Settings} {ps : List Property}
    (h : ∀ p ∈ ps, p.declaration ≠ []) (indent : Text) (level : Nat) (filled : Bool) :
    (Writing.properties settings ps).lines indent level filled =
      (Layout.margin indent level ++ ("Properties".toList ++ " \x7b".toList)) ::
        ps.flatMap (propertyLinesUnder settings.tagPrefix (Layout.margin indent (level+1))) ++
          [Layout.margin indent level ++ ['\x7d']] := by
  have htexts : ∀ t ∈ ps.flatMap fun p =>
      [Marker.property settings.tagPrefix (Writing.propertyAttributes p), p.declaration],
        t ≠ [] := by
    intro t ht
    obtain ⟨p, hp, ht⟩ := List.mem_flatMap.mp ht
    simp only [List.mem_cons, List.not_mem_nil, or_false] at ht
    rcases ht with rfl | rfl
    · exact Marker.format_ne_nil _ _ _
    · exact h p hp
  rw [Writing.properties, Layout.scope,
    Layout.lines_block_ofLines htexts (List.cons_ne_nil _ _), List.map_flatMap]
  rfl

/-- Properties are read back from their lines, under any margin. -/
theorem propertiesFrom_propertyLinesUnder
    {pre margin : Text} (hpre : ∀ c ∈ pre, isWord c) (hm : IsMargin margin) {ps : List Property}
    {known after : List Text} (h : ∀ p ∈ ps, p.Markable pre ∧ DeclaresUnmarked pre p.declaration)
    (hn : (ps.map (·.name)).Nodup) (hknown : ∀ p ∈ ps, p.name ∉ known)
    (hafter : ∀ l ∈ after, Marker.property? pre l = none) (i : Nat) :
    propertiesFrom pre i known (ps.flatMap (propertyLinesUnder pre margin) ++ after) =
      (ps.map Property.rewritten, []) := by
  induction ps generalizing i known with
  | nil => exact propertiesFrom_none hafter i known
  | cons p ps ih =>
    obtain ⟨hp, hdeclares⟩ := h p List.mem_cons_self
    obtain ⟨hnot, hn⟩ := List.nodup_cons.mp hn
    have hrest : ∀ q ∈ ps, q.name ∉ p.name :: known := by
      intro q hq
      rw [List.mem_cons, not_or]
      exact ⟨fun he => hnot (List.mem_map.mpr ⟨q, hq, he⟩), hknown q (List.mem_cons_of_mem _ hq)⟩
    have hname : p.rewritten.name = p.name := rfl
    have hne : p.name.isEmpty = false := by simpa using hp.name.1
    have hnew : known.contains p.name = false := by simpa using hknown p List.mem_cons_self
    have hdeclaration := hdeclares.property?_margin hm
    rw [List.flatMap_cons, propertyLinesUnder, List.append_assoc, List.cons_append,
      List.cons_append, List.nil_append, propertiesFrom, property?_margin hp hpre hm]
    simp only [read_propertyAttributes hp, propertyOf_written hdeclares hm, hname, hne, hnew,
      Bool.false_eq_true, if_false]
    rw [propertiesFrom, hdeclaration]
    simp only
    rw [ih (fun q hq => h q (List.mem_cons_of_mem _ hq)) hn hrest]
    rfl

lemma propertiesFrom_written {ps : List Property} {known after : List Text}
    (h : ∀ p ∈ ps, p.Legible) (hn : (ps.map (·.name)).Nodup) (hknown : ∀ p ∈ ps, p.name ∉ known)
    (hafter : ∀ l ∈ after, Marker.property? ({} : Settings).tagPrefix l = none) (i : Nat) :
    propertiesFrom ({} : Settings).tagPrefix i known (ps.flatMap propertyLines ++ after) =
      (ps.map Property.rewritten, []) :=
  propertiesFrom_propertyLinesUnder isWord_tagPrefix (isMargin_marginAt 2)
    (fun p hp => ⟨(h p hp).markable, (declares_declaration (h p hp)).unmarked⟩) hn hknown hafter i

end Source
end MarkedShader
