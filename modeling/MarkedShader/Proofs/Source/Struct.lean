import MarkedShader.Proofs.Source.Block
import MarkedShader.Writing.Entry

/-! The stage structs are read back from the lines they are written in. -/
namespace MarkedShader

namespace Source
open Text

variable {margin : Text}

/-- A member all of whose parts are words. -/
structure Member.Named (m : Member) : Prop where
  dataType : IsName m.dataType
  name : IsName m.name
  semantic : IsName m.semantic

instance (m : Member) : Decidable m.Named :=
  decidable_of_iff (IsName m.dataType ∧ IsName m.name ∧ IsName m.semantic)
    ⟨fun ⟨dataType, name, semantic⟩ => ⟨dataType, name, semantic⟩,
      fun h => ⟨h.dataType, h.name, h.semantic⟩⟩

def Member.written (m : Member) : Text := Writing.member m.dataType m.name m.semantic

lemma Member.written_eq (m : Member) : ∃ n, m.written =
    m.dataType ++ ' ' ::
      (m.name ++ (List.replicate n ' ' ++ ' ' :: ':' :: ' ' :: (m.semantic ++ [';']))) := by
  refine ⟨Writing.memberWidth - (m.dataType ++ ' ' :: m.name).length, ?_⟩
  delta Member.written Writing.member
  rw [String.toList_ofList]
  simp [List.rightpad]

lemma member?_written {m : Member} (h : m.Named) (hm : IsMargin margin) :
    member? (margin ++ m.written) = some m := by
  obtain ⟨n, hn⟩ := m.written_eq
  have hspace : isWord ' ' = false := by decide
  have hspaces : ∀ c ∈ List.replicate n ' ' ++ [' '], isBlank c := by
    refine isBlank_of_spaces fun c hc => ?_
    rcases List.mem_append.mp hc with hc | hc
    · exact List.eq_of_mem_replicate hc
    · exact List.mem_singleton.mp hc
  have hstart : skipBlanks (margin ++ m.written) = m.written := by
    rw [skipBlanks_append hm.isBlank, hn]
    exact skipBlanks_of_stop (h.dataType.head_not_blank _)
  have hname : ∀ t, blanks? (' ' :: (m.name ++ t)) = some (m.name ++ t) := fun t =>
    congrArg some (skipBlanks_of_stop (h.name.head_not_blank t))
  have hcolon : ∀ t, skipBlanks (List.replicate n ' ' ++ ' ' :: ':' :: t) = ':' :: t := fun t => by
    rw [List.append_cons]
    exact skipBlanks_margin hspaces rfl
  have hsemantic : skipBlanks (' ' :: (m.semantic ++ [';'])) = m.semantic ++ [';'] :=
    skipBlanks_of_stop (h.semantic.head_not_blank _)
  have hgap : ∀ t, ∀ c ∈ (List.replicate n ' ' ++ ' ' :: t).head?, isWord c = false := by
    intro t c hc
    have : c = ' ' := by cases n <;> exact (Option.some.inj hc).symm
    rw [this, hspace]
  have hlast : skipBlanks [';'] = [';'] := rfl
  have hword : ∀ w t, IsName w → (∀ c ∈ t.head?, isWord c = false) → word? (w ++ t) = some (w, t) :=
    fun w t hw stop => word?_append hw.1 hw.2 stop
  simp only [member?, hstart]
  rw [hn, hword _ _ h.dataType (by simp [hspace])]
  simp only [Option.bind_eq_bind, Option.bind_some, hname]
  rw [hword _ _ h.name (hgap _)]
  simp only [Option.bind_some, hcolon]
  rw [show after? [':'] (':' :: ' ' :: (m.semantic ++ [';'])) =
    some (' ' :: (m.semantic ++ [';'])) from rfl]
  simp only [Option.bind_some, hsemantic]
  rw [hword _ _ h.semantic (by decide)]
  rfl

lemma not_mem_written {m : Member} (h : m.Named) (hm : IsMargin margin) {c : Char}
    (hc : isWord c = false) (hne : c ∉ [' ', '\t', ':', ';']) : c ∉ margin ++ m.written := by
  simp only [List.mem_cons, List.not_mem_nil, or_false, not_or] at hne
  obtain ⟨hspace, htab, hcolon, hsemicolon⟩ := hne
  obtain ⟨n, hn⟩ := m.written_eq
  rw [hn]
  simp only [List.mem_append, List.mem_cons, not_or, List.mem_replicate, not_and]
  exact ⟨hm.not_mem (by simp [hspace, htab]), h.dataType.not_mem hc, hspace, h.name.not_mem hc,
    fun _ => hspace, hspace, hcolon,
    hspace, h.semantic.not_mem hc, hsemicolon, List.not_mem_nil⟩

lemma isLine_written {m : Member} (h : m.Named) (hm : IsMargin margin) :
    IsLine (margin ++ m.written) :=
  isLine_of_not_mem (not_mem_written h hm (by decide) (by decide))
    (not_mem_written h hm (by decide) (by decide))

def Content.addMembers (c : Content) (isInput : Bool) (ms : List Member) : Content :=
  { c with
    inputs := if isInput then c.inputs ++ ms else c.inputs
    outputs := if isInput then c.outputs else c.outputs ++ ms }

/-- The members of a struct are read up to the line that closes it. -/
lemma readStruct_written {ms : List Member} {last : Text} (hms : ∀ m ∈ ms, m.Named)
    (hm : IsMargin margin) (hlast : '\x7d' ∈ last) (i : Nat) (rest : List Text) :
    readStruct i (ms.map (fun m => margin ++ m.written) ++ last :: rest) =
      (ms, ms.length+1, []) := by
  have hinner : ((ms.map (fun m => margin ++ m.written) ++ last :: rest).takeWhile
      fun l => !l.contains '\x7d') =
      ms.map fun m => margin ++ m.written := by
    rw [List.takeWhile_append_of_pos,
      List.takeWhile_cons_of_neg (by simpa using hlast), List.append_nil]
    intro l hl
    obtain ⟨m, hmem, rfl⟩ := List.mem_map.mp hl
    simpa using not_mem_written (hms m hmem) hm (by decide) (by decide)
  have hmembers : (ms.map fun m => margin ++ m.written).filterMap member? = ms := by
    rw [List.filterMap_map]
    refine (List.filterMap_congr fun m hmem => member?_written (hms m hmem) hm).trans ?_
    exact List.filterMap_some
  simp only [readStruct, hinner, hmembers]
  rw [if_pos (by simp), List.length_map]

/-- A struct is read from its lines. -/
lemma Reads.struct {settings : Settings} {s : Progress} {isInput : Bool} {first last : Text}
    {ms : List Member}
    (hfirst : struct? settings.inputStruct settings.outputStruct first = some isInput ∧
      '[' ∉ first ∧ braceDelta first = 1 ∧ IsLine first)
    (hms : ∀ m ∈ ms, m.Named) (hm : IsMargin margin)
    (hlast : '\x7d' ∈ last ∧ '[' ∉ last ∧ braceDelta last = -1 ∧ IsLine last) :
    Reads settings s (first :: ms.map (fun m => margin ++ m.written) ++ [last])
      (s.update fun c => c.addMembers isInput ms) := by
  obtain ⟨hstruct, hfree, hopens, hline⟩ := hfirst
  obtain ⟨hcloses, hfree', hdepth, hline'⟩ := hlast
  have hlacks : ∀ kind, Marker.Lacks settings.tagPrefix kind first := fun _ =>
    Marker.lacks_of_not_infix (not_infix_of_not_mem hfree)
  have hwritten : ∀ l ∈ ms.map (fun m => margin ++ m.written), ∃ m ∈ ms, margin ++ m.written = l :=
    fun _ => List.mem_map.mp
  have hflat : ∀ l ∈ ms.map (fun m => margin ++ m.written), braceDelta l = 0 := by
    intro l hl
    obtain ⟨m, hmem, rfl⟩ := hwritten l hl
    exact braceDelta_of_not_mem (not_mem_written (hms m hmem) hm (by decide) (by decide))
      (not_mem_written (hms m hmem) hm (by decide) (by decide))
  refine .of_step (fun i c rest hc => ?_) (balancedFrom_braced hopens hdepth hflat) rfl
    (List.forall_mem_append.mpr ⟨?_, ?_⟩)
  · refine ⟨{ c with toParts := c.toParts.addStruct i isInput ms [] }, ⟨?_, hc.2⟩, ?_⟩
    · rw [Progress.update, ← hc.1]
      simp [Content.detached, Parts.addStruct, Content.addMembers]
    · simp only [Content.step, Parts.take?, (hlacks .sectionLabel).sectionLabel?,
        (hlacks .blockStart).blockStart?, hstruct, Option.map_some,
        readStruct_written hms hm hcloses i rest, List.length_map]
  · refine List.forall_mem_cons.mpr ⟨silent_of_not_mem hfree hline, fun l hl => ?_⟩
    obtain ⟨m, hmem, rfl⟩ := hwritten l hl
    exact silent_of_not_mem (not_mem_written (hms m hmem) hm (by decide) (by decide))
      (isLine_written (hms m hmem) hm)
  · exact List.forall_mem_singleton.mpr (silent_of_not_mem hfree' hline')

/-- The members that are written for the inputs of a graph. -/
def inputMembers (g : Graph) : List Member :=
  (g.activeFields .input).map fun f => ⟨f.dataType, f.name, f.semantic⟩

/-- The members that are written for the outputs of a graph. -/
def outputMembers (g : Graph) : List Member :=
  (Writing.withSemantics 0 (g.activeFields .output)).map fun (f, semantic) =>
    ⟨f.dataType, f.name, semantic⟩

lemma Member.Named.written_ne_nil {m : Member} (h : m.Named) : m.written ≠ [] := by
  obtain ⟨n, hn⟩ := m.written_eq
  simp [hn, h.dataType.1]

lemma struct?_margin {inputs outputs t : Text} (hm : IsMargin margin) :
    struct? inputs outputs (margin ++ t) = struct? inputs outputs t := by
  delta struct?
  refine search_append fun a b hab hb => ?_
  cases b with
  | nil => contradiction
  | cons c b =>
    have hc : 's' ≠ c := by
      rintro rfl
      exact hm.not_mem (by decide) (hab ▸ List.mem_append_right a List.mem_cons_self)
    rw [String.toList_ofList, List.cons_append, after?_of_head_ne hc]
    rfl

variable {indent : Text} (hindent : IsMargin indent) {level : Nat} {s : Progress}
include hindent

/-- A struct under a header that opens it. -/
lemma leads_struct {isInput : Bool} {header : Text} {ms : List Member}
    (hstruct : struct? ({} : Settings).inputStruct
      ({} : Settings).outputStruct (header ++ " \x7b".toList) = some isInput)
    (hfree : '[' ∉ header ++ " \x7b".toList) (hopens : braceDelta (header ++ " \x7b".toList) = 1)
    (hline : IsLine (header ++ " \x7b".toList)) (hms : ∀ m ∈ ms, m.Named) :
    Layout.Leads (Reads {}) indent level
      (.block header "\x7d;".toList (.ofLines (ms.map (·.written))) ++ .blank) s
      (s.update fun c => c.addMembers isInput ms) := by
  have hm : ∀ level, IsMargin (Layout.margin indent level) := Layout.isMargin_margin hindent
  have hfirst : struct? ({} : Settings).inputStruct ({} : Settings).outputStruct
        (Layout.margin indent level ++ (header ++ " \x7b".toList)) = some isInput ∧
      '[' ∉ Layout.margin indent level ++ (header ++ " \x7b".toList) ∧
      braceDelta (Layout.margin indent level ++ (header ++ " \x7b".toList)) = 1 ∧
      IsLine (Layout.margin indent level ++ (header ++ " \x7b".toList)) :=
    ⟨(struct?_margin (hm level)).trans hstruct, (hm level).not_mem_append (by decide) hfree,
      (braceDelta_margin (hm level) _).trans hopens, (hm level).isLine_append hline⟩
  have hlast : '\x7d' ∈ Layout.margin indent level ++ "\x7d;".toList ∧
      '[' ∉ Layout.margin indent level ++ "\x7d;".toList ∧
      braceDelta (Layout.margin indent level ++ "\x7d;".toList) = -1 ∧
        IsLine (Layout.margin indent level ++ "\x7d;".toList) :=
    ⟨List.mem_append_right _ (by decide), (hm level).not_mem_append (by decide) (by decide),
      (braceDelta_margin (hm level) _).trans (by decide), (hm level).isLine_append (by decide)⟩
  have hread := Reads.struct (s := s) hfirst hms (hm (level+1)) hlast
  refine Layout.Leads.append (Reads.along {}) (fun filled => ?_)
    (.blank (Reads.along {}) Reads.blank)
  rw [Layout.lines_block_ofLines _ (by decide), List.map_map]
  · exact hread
  · intro t ht
    obtain ⟨m, hmem, rfl⟩ := List.mem_map.mp ht
    exact (hms m hmem).written_ne_nil

lemma leads_structs {g : Graph} (hin : ∀ m ∈ inputMembers g, m.Named)
    (hout : ∀ m ∈ outputMembers g, m.Named) :
    Layout.Leads (Reads {}) indent level (Writing.structs {} g) s (s.update fun c =>
      (c.addMembers true (inputMembers g)).addMembers false (outputMembers g)) := by
  have hinputs :
      (g.activeFields .input).map (fun f => Writing.member f.dataType f.name f.semantic) =
      (inputMembers g).map (·.written) := by
    rw [inputMembers, List.map_map]
    rfl
  have houtputs : (Writing.withSemantics 0 (g.activeFields .output)).map
      (fun (f, semantic) => Writing.member f.dataType f.name semantic) =
        (outputMembers g).map (·.written) := by
    rw [outputMembers, List.map_map]
    rfl
  rw [Writing.structs, hinputs, houtputs]
  exact Layout.Leads.append (Reads.along {})
    (t := s.update fun c => c.addMembers true (inputMembers g))
    (leads_struct hindent (by decide) (by decide) (by decide) (by decide) hin)
    (leads_struct hindent (by decide) (by decide) (by decide) (by decide) hout)

end Source
end MarkedShader
