import MarkedShader.Proofs.Layout
import MarkedShader.Proofs.Source.Shape
import MarkedShader.Source.Parse

/-! How reading a pass goes on over some of its lines: what is found, how deep the braces are, and
that no line of a pass holds a property or render defaults. -/
namespace MarkedShader

/-- A block without what ties it to a text: its lines and its identity. -/
def Block.detached (b : Block) : Block := { b with startLine := -1, endLine := -1, id := .fresh 0 }

namespace Source
open Text

/-- What has been found, without the lines it was found on and whether the program has begun. -/
def Content.detached (c : Content) : Content :=
  { c with blocks := c.blocks.map Block.detached, structLines := [], inProgram := false }

/-- How far the reading of a pass has come. -/
structure Progress where
  found : Content
  /-- Whether the program may have begun. -/
  program : Bool → Prop
  /-- The braces that are open besides that of the pass. -/
  depth : Nat

/-- A line that counts only in its pass. -/
structure Silent (pre l : Text) : Prop where
  isLine : IsLine l
  noProperty : Marker.property? pre l = none
  noGlobal : Marker.global? pre l = none

/-- A line without a bracket is silent. -/
theorem silent_of_not_mem {pre l : Text} (h : '[' ∉ l) (hl : IsLine l) : Silent pre l :=
  have hfree := not_infix_of_not_mem h
  ⟨hl, (Marker.lacks_of_not_infix hfree).property?, (Marker.lacks_of_not_infix hfree).global?⟩

namespace Progress

def update (s : Progress) (change : Content → Content) : Progress :=
  { s with found := change s.found }

def addBlock (s : Progress) (b : Block) : Progress :=
  { s with found := { s.found with blocks := s.found.blocks ++ [b] } }

def enter (s : Progress) (inSection : Section) : Progress :=
  { s with found := { s.found with inSection } }

end Progress

def Progress.Holds (s : Progress) (c : Content) : Prop :=
  c.detached = s.found ∧ s.program c.inProgram

/-- Over some lines of a pass the reading comes from one point to another. -/
structure Reads (settings : Settings) (s : Progress) (ls : List Text) (t : Progress) : Prop where
  walked : ∀ i c rest, s.Holds c → ∃ c', t.Holds c' ∧
    walk (Content.step settings) i c (ls ++ rest) =
      walk (Content.step settings) (i+ls.length) c' rest
  closed : ∀ rest, closingLine? (s.depth+1) true (ls ++ rest) =
    (closingLine? (t.depth+1) true rest).map (· + ls.length)
  silent : ∀ l ∈ ls, Silent settings.tagPrefix l

variable {settings : Settings} {s t u : Progress} {l : Text}

lemma Reads.along (settings : Settings) : Layout.Along (Reads settings) where
  nil s := ⟨fun _ c _ h => ⟨c, h, rfl⟩, fun rest => by simp, fun _ h => absurd h List.not_mem_nil⟩
  append {s t u a b} ha hb := by
    refine ⟨fun i c rest h => ?_, fun rest => ?_, fun l hl => ?_⟩
    · obtain ⟨c', h', hwalk⟩ := ha.walked i c (b ++ rest) h
      obtain ⟨c'', h'', hwalk'⟩ := hb.walked (i+a.length) c' rest h'
      refine ⟨c'', h'', ?_⟩
      rw [List.append_assoc, hwalk, hwalk', List.length_append, Nat.add_assoc]
    · rw [List.append_assoc, ha.closed, hb.closed, Option.map_map, List.length_append]
      congr 1
      funext n
      simp only [Function.comp_apply]
      omega
    · rcases List.mem_append.mp hl with hl | hl
      · exact ha.silent l hl
      · exact hb.silent l hl

/-- A single line. -/
theorem Reads.line
    (hstep : ∀ i c rest, s.Holds c → ∃ c', t.Holds c' ∧ Content.step settings i c l rest = (c', 0))
    (hdepth : (s.depth : Int) + braceDelta l = t.depth) (hsilent : Silent settings.tagPrefix l) :
    Reads settings s [l] t := by
  refine ⟨fun i c rest h => ?_, fun rest => ?_, fun k hk => List.mem_singleton.mp hk ▸ hsilent⟩
  · obtain ⟨c', h', hs⟩ := hstep i c rest h
    refine ⟨c', h', ?_⟩
    rw [List.singleton_append, walk, hs]
    rfl
  · have hd : (s.depth : Int) + 1 + braceDelta l = t.depth + 1 := by omega
    rw [List.singleton_append, closingLine?, hd, if_neg (by simp)]
    rfl

/-- Under the standard settings the lines of a layout are read from one point to another. -/
abbrev ReadsAt (level : Nat) (l : Layout) (s t : Progress) : Prop :=
  Layout.Leads (Reads {}) ({} : Settings).indent level l s t

/-- The margin of a level under the standard settings. -/
abbrev marginAt (level : Nat) : Text := Layout.margin ({} : Settings).indent level

lemma spaces_marginAt (level : Nat) : ∀ c ∈ marginAt level, c = ' ' := by
  intro c hc
  obtain ⟨l, hl, hc⟩ := List.mem_flatten.mp hc
  rw [List.eq_of_mem_replicate hl] at hc
  have : ∀ c ∈ ({} : Settings).indent, c = ' ' := by decide
  exact this c hc

lemma isWord_tagPrefix : ∀ c ∈ ({} : Settings).tagPrefix, isWord c := by decide

/-- Lines that each change what has been found. -/
theorem readsAt_ofLines {α : Type} {level depth : Nat} {program : Bool → Prop}
    {as : List α} (text : α → Text) (change : Content → α → Content) (hne : ∀ a ∈ as, text a ≠ [])
    (h : ∀ a ∈ as, ∀ found, Reads {} ⟨found, program, depth⟩ [marginAt level ++ text a]
      ⟨change found a, program, depth⟩) (found : Content) :
    ReadsAt level (.ofLines (as.map text)) ⟨found, program, depth⟩
      ⟨as.foldl change found, program, depth⟩ := by
  induction as generalizing found with
  | nil => exact Layout.Leads.empty (Reads.along {})
  | cons a as ih =>
    have hline := Layout.Leads.line (hne a List.mem_cons_self) (h a List.mem_cons_self found)
    exact hline.append (Reads.along {}) (ih (fun a ha => hne a (List.mem_cons_of_mem _ ha))
      (fun a ha => h a (List.mem_cons_of_mem _ ha)) (change found a))

/-- A line that holds no marker and opens no struct. -/
structure Unmarked (settings : Settings) (l : Text) : Prop where
  isLine : IsLine l
  noMarker : ¬ Marker.opening settings.tagPrefix <:+: l
  noStruct : struct? settings.inputStruct settings.outputStruct l = none

namespace Unmarked

lemma silent (h : Unmarked settings l) : Silent settings.tagPrefix l :=
  ⟨h.isLine, (Marker.lacks_of_not_infix h.noMarker).property?,
    (Marker.lacks_of_not_infix h.noMarker).global?⟩

lemma take? (h : Unmarked settings l) {i : Nat} {p : Parts} {rest : List Text} :
    p.take? settings i l rest = none := by
  have hs : Marker.sectionLabel? settings.tagPrefix l = none :=
    (Marker.lacks_of_not_infix h.noMarker).sectionLabel?
  have hb : Marker.blockStart? settings.tagPrefix l = none :=
    (Marker.lacks_of_not_infix h.noMarker).blockStart?
  simp [Parts.take?, hs, hb, h.noStruct]

end Unmarked

/-- A line that begins or ends no program. -/
def KeepsProgram (l : Text) : Prop := startsProgram l = false ∧ endsProgram l = false

/-- A line outside the program that changes what has been found. -/
theorem Reads.stateLine {change : Content → Content} (h : Unmarked settings l) (hk : KeepsProgram l)
    (hd : braceDelta l = 0) (hs : ∀ b, s.program b → b = false)
    (htake : ∀ i c rest, c.detached = s.found → c.takeStateLine i l rest = (change c, 0))
    (hchange : ∀ c, (change c).detached = change c.detached ∧ (change c).inProgram = c.inProgram) :
    Reads settings s [l] (s.update change) := by
  refine .line (fun i c rest hc => ?_) (by rw [hd, Int.add_zero]; rfl) h.silent
  refine ⟨change c, ⟨?_, ?_⟩, ?_⟩
  · rw [(hchange c).1, hc.1]
    rfl
  · rw [(hchange c).2]
    exact hc.2
  · have hprogram : c.inProgram = false := hs _ hc.2
    simp [Content.step, h.take?, hk.1, hk.2, hprogram, htake i c rest hc.1]

/-- A line of the program that changes what has been found. -/
theorem Reads.programLine {change : Content → Content}
    (h : Unmarked settings l) (hk : KeepsProgram l) (hd : braceDelta l = 0)
    (hs : ∀ b, s.program b → b = true) (htake : ∀ c, c.takeProgramLine l = change c)
    (hchange : ∀ c, (change c).detached = change c.detached ∧ (change c).inProgram = c.inProgram) :
    Reads settings s [l] (s.update change) := by
  refine .line (fun i c rest hc => ?_) (by rw [hd, Int.add_zero]; rfl) h.silent
  refine ⟨change c, ⟨?_, ?_⟩, ?_⟩
  · rw [(hchange c).1, hc.1]
    rfl
  · rw [(hchange c).2]
    exact hc.2
  · have hprogram : c.inProgram = true := hs _ hc.2
    simp [Content.step, h.take?, hk.1, hk.2, hprogram, htake c]

/-- The line that begins the program. -/
theorem Reads.starts (h : Unmarked settings l) (hs : startsProgram l = true)
    (hd : braceDelta l = 0) : Reads settings s [l] { s with program := (· = true) } := by
  refine .line (fun i c rest hc => ⟨{ c with inProgram := true }, ⟨hc.1, rfl⟩, ?_⟩)
    (by rw [hd, Int.add_zero]) h.silent
  simp [Content.step, h.take?, hs]

/-- The line that ends the program. -/
theorem Reads.ends (h : Unmarked settings l) (hs : startsProgram l = false)
    (he : endsProgram l = true) (hd : braceDelta l = 0) :
    Reads settings s [l] { s with program := (· = false) } := by
  refine .line (fun i c rest hc => ⟨{ c with inProgram := false }, ⟨hc.1, rfl⟩, ?_⟩)
    (by rw [hd, Int.add_zero]) h.silent
  simp [Content.step, h.take?, hs, he]

lemma Idle.unmarked (h : Idle settings l) : Unmarked settings l :=
  ⟨h.2.2.2.2.2.2.2, Marker.isMarker_eq_false_iff.mp h.1, h.2.1⟩

lemma Idle.takeProgramLine (h : Idle settings l) (c : Content) : c.takeProgramLine l = c := by
  simp [Content.takeProgramLine, h.2.2.1, h.2.2.2.1]

lemma Idle.takeStateLine (h : Idle settings l) (hs : opensStencil l = false) (c : Content) (i : Nat)
    (rest : List Text) : c.takeStateLine i l rest = (c, 0) := by
  simp [Content.takeStateLine, h.2.2.2.2.1, h.2.2.2.2.2.1, h.2.2.2.2.2.2.1, hs]

/-- An idle line changes at most whether the program has begun and how deep the braces are. -/
theorem Reads.idle_depth (h : Idle settings l) (hstart : startsProgram l → s.program true)
    (hend : endsProgram l → s.program false)
    (hstencil : opensStencil l → ∀ b, s.program b → b = true) {depth : Nat}
    (hdepth : (s.depth : Int) + braceDelta l = depth) :
    Reads settings s [l] { s with depth } := by
  refine .line (fun i c rest hc => ?_) hdepth h.unmarked.silent
  simp only [Content.step, h.unmarked.take?]
  split_ifs with hs he hp
  · exact ⟨{ c with inProgram := true }, ⟨hc.1, hstart hs⟩, rfl⟩
  · exact ⟨{ c with inProgram := false }, ⟨hc.1, hend he⟩, rfl⟩
  · rw [h.takeProgramLine]
    exact ⟨c, hc, rfl⟩
  · have : opensStencil l = false := by
      by_contra ho
      exact hp (hstencil (by simpa using ho) _ hc.2)
    rw [h.takeStateLine this]
    exact ⟨c, hc, rfl⟩

/-- An idle line is passed over if nothing begins or ends with it. -/
theorem Reads.idle (h : Idle settings l) (hd : braceDelta l = 0)
    (hstart : startsProgram l → s.program true) (hend : endsProgram l → s.program false)
    (hstencil : opensStencil l → ∀ b, s.program b → b = true) :
    Reads settings s [l] s := Reads.idle_depth h hstart hend hstencil (by rw [hd, Int.add_zero])

lemma idle_nil (settings : Settings) : Idle settings [] := by
  have hm : Marker.isMarker settings.tagPrefix [] = false := by
    rw [Marker.isMarker_eq_false_iff]
    exact not_infix_nil
  have hs : struct? settings.inputStruct settings.outputStruct [] = none :=
    struct?_of_not_mem List.not_mem_nil
  have hrest : include? [] = none ∧ pragma? [] = none ∧ passName? [] = none ∧ lightMode? [] = none ∧
      renderState? [] = none ∧ IsLine [] := by
    decide
  exact ⟨hm, hs, hrest⟩

/-- An empty line is passed over. -/
theorem Reads.blank : Reads settings s [[]] s := by
  have h : startsProgram [] = false ∧ endsProgram [] = false ∧ opensStencil [] = false := by decide
  exact .idle (idle_nil settings) rfl (by simp [h.1]) (by simp [h.2.1]) (by simp [h.2.2])

end Source
end MarkedShader
