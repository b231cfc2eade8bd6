import MarkedShader.Attributes
import MarkedShader.Proofs.Text.Readers
import Mathlib.Data.List.Nodup
import Mathlib.Tactic.SplitIfs

/-! Attributes are read back as they were written, if their keys are different lowercase words. -/
namespace MarkedShader

namespace Text

variable {α : Type} {reader : Text → Option (α × Nat)}

lemma scan_drop (b : Option Char) (n : Nat) (t : Text) :
    scan (fun _ => reader) b n t = scan (fun _ => reader) none 0 (t.drop n) := by
  induction t generalizing b n with
  | nil => simp [scan]
  | cons c t ih =>
    cases n with
    | succ n => exact ih (some c) n
    | zero =>
      simp only [List.drop_zero, scan]

/-- The scan goes on behind what the reader takes. -/
theorem scan_of_some {c : Char} {t : Text} {a : α} {n : Nat} (h : reader (c :: t) = some (a, n+1)) :
    scan (fun _ => reader) none 0 (c :: t) = a :: scan (fun _ => reader) none 0 (t.drop n) := by
  simp only [scan, h, Nat.add_sub_cancel]
  rw [scan_drop]

/-- Where the reader takes nothing, the scan goes on at the next character. -/
theorem scan_of_none {c : Char} {t : Text} (h : reader (c :: t) = none) :
    scan (fun _ => reader) none 0 (c :: t) = scan (fun _ => reader) none 0 t := by
  simp only [scan, h]
  rw [scan_drop, List.drop_zero]

lemma scan_append_of_some {l t : Text} {a : α}
    (h : reader (l ++ t) = some (a, l.length)) (hne : l ≠ []) :
    scan (fun _ => reader) none 0 (l ++ t) = a :: scan (fun _ => reader) none 0 t := by
  cases l with
  | nil => contradiction
  | cons c l =>
    rw [List.cons_append] at h ⊢
    rw [scan_of_some h, List.drop_left]

/-- Places at which the reader fails are passed over. -/
theorem scan_append_of_none {l t : Text} (h : ∀ u, u ≠ [] → u <:+ l → reader (u ++ t) = none) :
    scan (fun _ => reader) none 0 (l ++ t) = scan (fun _ => reader) none 0 t := by
  induction l with
  | nil => rfl
  | cons c l ih =>
    have hc := h (c :: l) (by simp) List.suffix_rfl
    rw [List.cons_append] at hc ⊢
    rw [scan_of_none hc]
    exact ih fun u hne hu => h u hne (hu.trans (List.suffix_cons c l))

end Text

namespace Entries

variable {α : Type}

lemma insert_of_not_mem {es : Entries α} {name : Text} {value : α} (h : name ∉ es.map (·.1)) :
    insert name value es = es ++ [(name, value)] := by
  induction es with
  | nil => rfl
  | cons e es ih =>
    rw [List.map_cons, List.mem_cons, not_or] at h
    rw [insert, if_neg (Ne.symm h.1), ih h.2, List.cons_append]

/-- Entries of different names are what they make. -/
lemma ofPairs_of_nodup {es : Entries α} (h : (es.map (·.1)).Nodup) : ofPairs es = es := by
  suffices ∀ before : Entries α, (before ++ es).map (·.1) |>.Nodup →
      es.foldl (fun es p => insert p.1 p.2 es) before = before ++ es from this [] h
  intro before hn
  induction es generalizing before with
  | nil => simp
  | cons e es ih =>
    have hnot : e.1 ∉ before.map (·.1) := by
      rw [List.map_append, List.map_cons] at hn
      intro hm
      exact (List.nodup_append.mp hn).2.2 e.1 hm e.1 List.mem_cons_self rfl
    rw [List.foldl_cons]
    simp only [insert_of_not_mem hnot]
    have := ih (List.Nodup.of_cons h) (before ++ [(e.1, e.2)]) (by simpa using hn)
    simpa using this

/-- Among entries of different names each is found by its own. -/
lemma get?_of_mem {es : Entries α} (hn : (es.map (·.1)).Nodup) {name : String} {value : α}
    (h : (name.toList, value) ∈ es) : es.get? name = some value := by
  obtain ⟨before, after, rfl⟩ := List.append_of_mem h
  rw [get?, List.lookup_eq_some_iff]
  refine ⟨before, after, rfl, fun e he => bne_iff_ne.mpr fun heq => ?_⟩
  rw [List.map_append, List.map_cons] at hn
  exact (List.nodup_append.mp hn).2.2 e.1
    (List.mem_map_of_mem he) name.toList List.mem_cons_self heq.symm

lemma getD_of_mem {es : Entries α} (hn : (es.map (·.1)).Nodup) {name : String} {value : α}
    (h : (name.toList, value) ∈ es) (default : α) : es.getD name default = value := by
  rw [getD, get?_of_mem hn h, Option.getD_some]

lemma getD_of_not_mem {es : Entries α} {name : String} (h : name.toList ∉ es.map (·.1))
    (default : α) : es.getD name default = default := by
  have hnone : es.get? name = none :=
    List.lookup_eq_none_iff.mpr fun e he => bne_iff_ne.mpr fun heq =>
      h (heq ▸ List.mem_map_of_mem he)
  rw [getD, hnone, Option.getD_none]

end Entries

namespace Attributes
open Text

/-- A key that is read back: a word in lower case. -/
def IsKey (k : Text) : Prop := k ≠ [] ∧ (∀ c ∈ k, isWord c) ∧ k.lower = k

instance (k : Text) : Decidable (IsKey k) := inferInstanceAs (Decidable (_ ∧ _))

lemma IsKey.isName {k : Text} (h : IsKey k) : IsName k := ⟨h.1, h.2.1⟩

lemma isName_of_isKey {as : Attributes} (h : ∀ p ∈ as, IsKey p.1) : ∀ p ∈ as, IsName p.1 :=
  fun p hp => (h p hp).isName

/-- Text without quotes or line feeds is quoted as it is. -/
theorem quote_eq {v : Text} (hq : '"' ∉ v) (hn : '\n' ∉ v) : quote v = v := by
  refine (List.map_congr_left fun c hc => ?_).trans (List.map_id v)
  have hcq : c ≠ '"' := fun e => hq (e ▸ hc)
  have hcn : c ≠ '\n' := fun e => hn (e ▸ hc)
  simp [hcq, hcn]

/-- Quoted text has neither quotes nor line feeds. -/
theorem quote_free (v : Text) : '"' ∉ quote v ∧ '\n' ∉ quote v := by
  have hchar : ∀ c : Char, (if c = '"' then '\'' else if c = '\n' then ' ' else c) ≠ '"' ∧
      (if c = '"' then '\'' else if c = '\n' then ' ' else c) ≠ '\n' := by
    intro c
    split_ifs with hq hn
    · decide
    · decide
    · exact ⟨hq, hn⟩
  constructor
  · intro hm
    obtain ⟨c, -, hc⟩ := List.mem_map.mp hm
    exact (hchar c).1 hc
  · intro hm
    obtain ⟨c, -, hc⟩ := List.mem_map.mp hm
    exact (hchar c).2 hc

@[simp] lemma quote_quote (v : Text) : quote (quote v) = quote v :=
  quote_eq (quote_free v).1 (quote_free v).2

@[simp] lemma quote_eq_nil_iff {v : Text} : quote v = [] ↔ v = [] := List.map_eq_nil_iff

/-- The attributes that are read where some are written. -/
def quoted (as : Attributes) : Attributes := as.map fun p => (p.1, quote p.2)

lemma write_quoted (as : Attributes) : as.quoted.write = as.write := by
  simp only [write, quoted, List.map_map, Function.comp_def, quote_quote]

lemma quoted_eq_self {as : Attributes} (h : ∀ p ∈ as, quote p.2 = p.2) : as.quoted = as := by
  refine (List.map_congr_left fun p hp => ?_).trans (List.map_id as)
  exact Prod.ext rfl (h p hp)

/-- One pair as it is written. -/
def writePair (p : Text × Text) : Text := p.1 ++ "=\"".toList ++ quote p.2 ++ ['"']

lemma writePair_eq {p : Text × Text} (hq : '"' ∉ p.2) (hn : '\n' ∉ p.2) :
    writePair p = p.1 ++ '=' :: '"' :: (p.2 ++ ['"']) := by
  delta writePair
  rw [quote_eq hq hn, String.toList_ofList]
  simp

lemma write_cons (p : Text × Text) (ps : Attributes) :
    write (p :: ps) = writePair p ++ if ps.isEmpty then [] else ' ' :: write ps := by
  cases ps with
  | nil => simp [write, writePair]
  | cons q ps => simp [write, writePair, List.intercalate_cons_cons]

lemma pair?_append {k v : Text} (hk : IsKey k) (hq : '"' ∉ v) (r : Text) :
    pair? (k ++ '=' :: '"' :: (v ++ '"' :: r)) = some ((k, v), k.length + v.length + 3) := by
  have hword :
      word? (k ++ '=' :: '"' :: (v ++ '"' :: r)) = some (k, '=' :: '"' :: (v ++ '"' :: r)) :=
    word?_append hk.1 hk.2.1 (by simp [show isWord '=' = false from by decide])
  have hafter : after? ['='] ('=' :: '"' :: (v ++ '"' :: r)) = some ('"' :: (v ++ '"' :: r)) :=
    after?_append ['='] _
  simp only [pair?, hword, hafter, quoted?_append hq, Option.bind_eq_bind, Option.bind_some]

/-- A written pair is found, and the scan goes on behind it. -/
lemma scan_writePair {p : Text × Text} (hk : IsKey p.1)
    (hv : '"' ∉ p.2 ∧ '\n' ∉ p.2) (rest : Text) :
    scan (fun _ => pair?) none 0 (writePair p ++ rest) =
      p :: scan (fun _ => pair?) none 0 rest := by
  obtain ⟨k, v⟩ := p
  rw [writePair_eq hv.1 hv.2]
  cases k with
  | nil => exact absurd rfl hk.1
  | cons c k =>
    have hpair := pair?_append hk hv.1 rest
    have htext : (c :: k) ++ '=' :: '"' :: (v ++ ['"']) ++ rest =
        c :: (k ++ '=' :: '"' :: (v ++ '"' :: rest)) := by
      simp
    have hdrop : (k ++ '=' :: '"' :: (v ++ '"' :: rest)).drop (k.length+v.length+3) = rest := by
      have : k ++ '=' :: '"' :: (v ++ '"' :: rest) = (k ++ '=' :: '"' :: (v ++ ['"'])) ++ rest := by
        simp
      rw [this, List.drop_left' (by simp; omega)]
    rw [List.cons_append, List.length_cons,
      show k.length+1+v.length+3 = (k.length+v.length+3)+1 by omega] at hpair
    rw [htext, scan_of_some hpair, hdrop]

lemma scan_write {as : Attributes} (hkeys : ∀ p ∈ as, IsKey p.1)
    (hvalues : ∀ p ∈ as, '"' ∉ p.2 ∧ '\n' ∉ p.2) : scan (fun _ => pair?) none 0 as.write = as := by
  induction as with
  | nil => rfl
  | cons p ps ih =>
    obtain ⟨hkey, hkeys⟩ := List.forall_mem_cons.mp hkeys
    obtain ⟨hvalue, hvalues⟩ := List.forall_mem_cons.mp hvalues
    have hrest :
        scan (fun _ => pair?) none 0 (if ps.isEmpty then [] else ' ' :: write ps) = ps := by
      cases ps with
      | nil => rfl
      | cons q ps =>
        have hblank : pair? (' ' :: write (q :: ps)) = none := by
          have : word? (' ' :: write (q :: ps)) = none := rfl
          simp [pair?, this]
        rw [if_neg (by simp), scan_of_none hblank]
        exact ih hkeys hvalues
    rw [write_cons, scan_writePair hkey hvalue, hrest]

/-- Attributes that are written are read back, in their order. -/
theorem read_write {as : Attributes} (hkeys : ∀ p ∈ as, IsKey p.1)
    (hvalues : ∀ p ∈ as, '"' ∉ p.2 ∧ '\n' ∉ p.2) (hn : (as.map (·.1)).Nodup) :
    read as.write = as := by
  have hlower : (as.map fun p => (p.1.lower, p.2)) = as := by
    conv_rhs => rw [← List.map_id as]
    exact List.map_congr_left fun p hp => Prod.ext (hkeys p hp).2.2 rfl
  rw [read, scan_write hkeys hvalues]
  change Entries.ofPairs (as.map fun p => (p.1.lower, p.2)) = as
  rw [hlower, Entries.ofPairs_of_nodup hn]

end Attributes
end MarkedShader
