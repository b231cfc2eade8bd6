import MarkedShader.Proofs.Record.Leaves
import MarkedShader.Record.Read
import Mathlib.Tactic.Lemma

/-! Readers from which no fault escapes: whatever they are given, they read it or end in a fault of
the record. -/
namespace MarkedShader
namespace Record.Read

/-- A reading that ends in a fault which is not reported as one of the record. -/
def Escapes {α : Type} (x : Except RecordFault α) (f : RecordFault) : Prop :=
  x = .error f ∧ f.escapes

/-- A reading that succeeds or ends in a fault of the record. -/
def Contained {α : Type} (x : Except RecordFault α) : Prop := ∀ f, ¬Escapes x f

section
variable {α β : Type} {x : Except RecordFault α} {k : α → Except RecordFault β} {f : RecordFault}

lemma escapes_error_iff {g : RecordFault} :
    Escapes (.error g : Except RecordFault α) f ↔ f = g ∧ g.escapes := by
  constructor
  · rintro ⟨h, hf⟩
    cases h
    exact ⟨rfl, hf⟩
  · rintro ⟨rfl, hf⟩
    exact ⟨rfl, hf⟩

/-- A fault escapes from two readers in a row if it does from the first, or from the second behind
it. -/
theorem escapes_bind_iff :
    Escapes (x >>= k) f ↔ Escapes x f ∨ ∃ a, x = .ok a ∧ Escapes (k a) f := by
  cases x with
  | error g =>
    show Escapes (.error g : Except RecordFault β) f ↔ _
    rw [escapes_error_iff, escapes_error_iff]
    exact ⟨.inl, fun h => h.resolve_right nofun⟩
  | ok a =>
    constructor
    · exact fun h => .inr ⟨a, rfl, h⟩
    · rintro (⟨h, -⟩ | ⟨_, h, hk⟩)
      · contradiction
      · cases h
        exact hk

lemma contained_ok (a : α) : Contained (.ok a : Except RecordFault α) := fun _ h => nomatch h.1

lemma contained_error {g : RecordFault} (h : g.escapes = false) :
    Contained (.error g : Except RecordFault α) := by
  intro f hf
  obtain ⟨rfl, hg⟩ := escapes_error_iff.mp hf
  simp [h] at hg

/-- Two contained readers are contained one after the other. -/
theorem Contained.bind (hx : Contained x) (hk : ∀ a, Contained (k a)) : Contained (x >>= k) := by
  intro f h
  rcases escapes_bind_iff.mp h with h | ⟨a, -, h⟩
  · exact hx f h
  · exact hk a f h

lemma escapes_map_iff {g : α → β} : Escapes (x.map g) f ↔ Escapes x f := by
  cases x with
  | error fault =>
    show Escapes (.error fault : Except RecordFault β) f ↔ _
    rw [escapes_error_iff, escapes_error_iff]
  | ok a => exact iff_of_false (contained_ok (g a) f) (contained_ok a f)

lemma Escapes.of_ok {a : α} (hx : x = .ok a) (h : Escapes (k a) f) : Escapes (x >>= k) f :=
  escapes_bind_iff.mpr (.inr ⟨a, hx, h⟩)

lemma Contained.escapes_bind_iff (hx : Contained x) :
    Escapes (x >>= k) f ↔ ∃ a, x = .ok a ∧ Escapes (k a) f := by
  rw [Read.escapes_bind_iff, or_iff_right (hx f)]

lemma isOk_bind_iff : (x >>= k).isOk ↔ ∃ a, x = .ok a ∧ (k a).isOk := by
  cases x with
  | error => exact ⟨nofun, nofun⟩
  | ok a => exact ⟨fun h => ⟨a, rfl, h⟩, fun ⟨_, h, hk⟩ => by cases h; exact hk⟩

lemma isOk_iff : x.isOk ↔ ∃ a, x = .ok a := by
  cases x with
  | error => exact ⟨nofun, nofun⟩
  | ok a => exact ⟨fun _ => ⟨a, rfl⟩, fun _ => rfl⟩

end

/-- One of some items cannot be got over, and those before it are read. -/
def FirstTrip (isRead : Data → Bool) (trips : Data → Prop) : List Data → Prop
  | [] => False
  | d :: ds => trips d ∨ isRead d ∧ FirstTrip isRead trips ds

lemma FirstTrip.exists {isRead : Data → Bool} {trips : Data → Prop} {ds : List Data}
    (h : FirstTrip isRead trips ds) : ∃ d ∈ ds, trips d := by
  induction ds with
  | nil => exact h.elim
  | cons d ds ih =>
    rcases h with h | ⟨-, h⟩
    · exact ⟨d, List.mem_cons_self, h⟩
    · obtain ⟨e, he, htrips⟩ := ih h
      exact ⟨e, List.mem_cons_of_mem d he, htrips⟩

lemma escapes_mapM_iff {α : Type} {read : Data → Except RecordFault α}
    {f : RecordFault} {ds : List Data} :
    Escapes (ds.mapM read) f ↔
      FirstTrip (fun d => (read d).isOk) (fun d => Escapes (read d) f) ds := by
  induction ds with
  | nil => exact ⟨fun h => (nomatch h.1), False.elim⟩
  | cons d ds ih =>
    rw [List.mapM_cons, escapes_bind_iff, FirstTrip, ← ih, isOk_iff]
    refine or_congr_right ?_
    constructor
    · rintro ⟨a, ha, h⟩
      rcases escapes_bind_iff.mp h with h | ⟨_, -, h⟩
      · exact ⟨⟨a, ha⟩, h⟩
      · exact absurd h (contained_ok _ f)
    · rintro ⟨⟨a, ha⟩, h⟩
      exact ⟨a, ha, escapes_bind_iff.mpr (.inl h)⟩

variable {d : Data} {es : Entries}

/-- From the reader of a list no fault escapes. -/
theorem contained_items (d : Data) : Contained (items {} d) := by
  unfold items
  split
  · exact contained_ok _
  · exact contained_error rfl

/-- From the reader of a required entry no fault escapes. -/
theorem contained_required (es : Entries) (key : String) : Contained (required es key) := by
  unfold required
  split
  · exact contained_ok _
  · exact contained_error rfl

lemma contained_partOf (es : Entries) (key : String) : Contained (partOf es key) := by
  unfold partOf
  split
  · exact contained_ok _
  · exact contained_error rfl

lemma contained_onlyNamed (names : List String) (es : Entries) :
    Contained (onlyNamed names es) := by
  unfold onlyNamed
  split
  · exact contained_ok _
  · exact contained_error rfl

lemma contained_entriesOr {fault : RecordFault} (h : fault.escapes = false) (d : Data) :
    Contained (entriesOr {} fault d) := by
  unfold entriesOr
  split
  · exact contained_ok _
  · exact contained_error h

lemma contained_ofPairs (index : Nat) (es : Entries) (ds : List Data) :
    Contained (ofPairs {} index es ds) := by
  induction ds generalizing index es with
  | nil => exact contained_ok es
  | cons d ds ih =>
    refine (contained_items d).bind fun parts => ?_
    split
    · split
      · exact ih _ _
      · exact contained_error rfl
    · exact contained_error rfl

lemma contained_copied (d : Data) : Contained (copied {} d) := by
  unfold copied
  split
  · exact contained_ok _
  · exact (contained_items _).bind fun ds => contained_ofPairs 0 [] ds

/-- The fault that shows a value, where it can be shown. -/
lemma faultOf_cases (found : Data) (fault : Data → RecordFault) (whenTooLong : RecordFault) :
    (found.isSpellable ∧ ∃ d, faultOf {} found fault whenTooLong = fault d) ∨
    (found.isSpellable = false ∧ faultOf {} found fault whenTooLong = whenTooLong) := by
  unfold faultOf
  have h := Store.settles_shown found
  cases hb : found.isSpellable with
  | true =>
    rw [hb] at h
    generalize Store.shown {} found = x at h ⊢
    cases h
    exact .inl ⟨rfl, _, rfl⟩
  | false =>
    rw [hb] at h
    generalize Store.shown {} found = x at h ⊢
    cases h
    exact .inr ⟨rfl, rfl⟩

lemma escapes_faultOf_iff {α : Type} {fault : Data → RecordFault}
    (h : ∀ d, (fault d).escapes = false) {found : Data} {f : RecordFault} :
    Escapes (.error (faultOf {} found fault (.unspellable .integerTooLong)) : Except RecordFault α)
      f ↔
      found.isSpellable = false ∧ f = .unspellable .integerTooLong := by
  rw [escapes_error_iff]
  rcases faultOf_cases found fault (.unspellable .integerTooLong) with ⟨hd, shown, hf⟩ | ⟨hd, hf⟩
  · rw [hf, hd, h shown]
    exact ⟨fun h => (nomatch h.2), fun h => (nomatch h.1)⟩
  · rw [hf, hd]
    exact ⟨fun h => ⟨rfl, h.1⟩, fun h => ⟨h.2, rfl⟩⟩

lemma contained_named {α : Type} (kind : String) (ofName? : Text → Option α) (d : Data) :
    Contained (named {} kind ofName? d) := by
  unfold named
  split
  · exact contained_ok _
  · refine contained_error ?_
    rcases faultOf_cases d (.unknownName · kind.toList)
      (.integerTooLong none) with ⟨-, _, h⟩ | ⟨-, h⟩
    all_goals
      rw [h]
      rfl

lemma contained_property (d : Data) : Contained (property {} d) :=
  (contained_copied d).bind fun es => (contained_required es _).bind fun found =>
    (contained_named _ _ found).bind fun _ => (contained_onlyNamed _ es).bind fun es =>
    (contained_partOf es _).bind fun _ => contained_ok _

lemma contained_block (serial : Nat) (d : Data) : Contained (block {} serial d) :=
  (contained_copied d).bind fun es => (contained_required es _).bind fun found =>
    (contained_named _ _ found).bind fun _ => (contained_onlyNamed _ es).bind fun es =>
    (contained_partOf es _).bind fun _ => contained_ok _

lemma contained_blocks (serial : Nat) (ds : List Data) : Contained (blocks {} serial ds) := by
  induction ds generalizing serial with
  | nil => exact contained_ok []
  | cons d ds ih =>
    exact (contained_block serial d).bind fun _ => (ih (serial+1)).bind fun _ => contained_ok _

lemma contained_stencil (d : Data) : Contained (stencil {} d) :=
  (contained_entriesOr rfl d).bind fun es => (contained_onlyNamed _ es).bind fun _ => contained_ok _

lemma contained_optional {α : Type} {read : Data → Except RecordFault α}
    (h : ∀ d, Contained (read d)) (d : Data) : Contained (optional read d) := by
  unfold optional
  split
  · exact contained_ok none
  · exact fun f hf => h _ f (escapes_map_iff.mp hf)

lemma contained_globalSettings (d : Data) : Contained (globalSettings {} d) :=
  (contained_entriesOr rfl d).bind fun es => (contained_onlyNamed _ es).bind fun _ => contained_ok _

end Record.Read
end MarkedShader
