import MarkedShader.Data.Store
import Mathlib.Tactic.Lemma

/-! The leaves of a value. Something is done at each of them, and fails if it fails at one. -/
namespace MarkedShader
namespace Data

mutual
/-- Whether a test holds of all leaves of a value, the keys of its mappings included. -/
def allLeaves (p : Data → Bool) : Data → Bool
  | list items | tuple items => allLeavesIn p items
  | mapping entries => allLeavesInEntries p entries
  | d => p d
def allLeavesIn (p : Data → Bool) : List Data → Bool
  | [] => true
  | d :: ds => allLeaves p d && allLeavesIn p ds
def allLeavesInEntries (p : Data → Bool) : List (Data × Data) → Bool
  | [] => true
  | (key, d) :: es => allLeaves p key && allLeaves p d && allLeavesInEntries p es
end

section
variable {p : Data → Bool} {ds : List Data} {es : List (Data × Data)}

lemma allLeavesIn_iff : allLeavesIn p ds ↔ ∀ d ∈ ds, d.allLeaves p := by
  induction ds with
  | nil => simp [allLeavesIn]
  | cons d ds ih => simp [allLeavesIn, ih]

lemma allLeavesInEntries_iff :
    allLeavesInEntries p es ↔ ∀ e ∈ es, e.1.allLeaves p ∧ e.2.allLeaves p := by
  induction es with
  | nil => simp [allLeavesInEntries]
  | cons e es ih => simp [allLeavesInEntries, ih]

lemma allLeaves_list_iff : (list ds).allLeaves p ↔ ∀ d ∈ ds, d.allLeaves p := allLeavesIn_iff

lemma allLeaves_mapping_iff :
    (mapping es).allLeaves p ↔ ∀ e ∈ es, e.1.allLeaves p ∧ e.2.allLeaves p :=
  allLeavesInEntries_iff

end

section
variable {p : Data → Bool} {f : Data → Except Data.Fault Data}

mutual
/-- A value comes back if each of its leaves does. -/
theorem replaceLeaves_eq_self (same : ∀ d, p d → f d = .ok d) :
    ∀ d : Data, d.allLeaves p → d.replaceLeaves f = .ok d
  | list ds, h => by rw [replaceLeaves, replaceInItems_eq_self same ds h]; rfl
  | tuple ds, h => by rw [replaceLeaves, replaceInItems_eq_self same ds h]; rfl
  | mapping es, h => by rw [replaceLeaves, replaceInEntries_eq_self same es h]; rfl
  | null, h | bool _, h | int _, h | real _, h | text _, h | bytes _, h | date _,
    h | moment _, h | madeUp _, h
  | set _, h | shared _ _, h => same _ h
lemma replaceInItems_eq_self (same : ∀ d, p d → f d = .ok d) :
    ∀ ds : List Data, allLeavesIn p ds → replaceInItems f ds = .ok ds
  | [], _ => rfl
  | d :: ds, h => by
    obtain ⟨hd, hds⟩ := Bool.and_eq_true_iff.mp h
    rw [replaceInItems, replaceLeaves_eq_self same d hd, replaceInItems_eq_self same ds hds]
    rfl
lemma replaceInEntries_eq_self (same : ∀ d, p d → f d = .ok d) :
    ∀ es : List (Data × Data), allLeavesInEntries p es → replaceInEntries f es = .ok es
  | [], _ => rfl
  | (key, d) :: es, h => by
    obtain ⟨hentry, hes⟩ := Bool.and_eq_true_iff.mp h
    obtain ⟨hkey, hd⟩ := Bool.and_eq_true_iff.mp hentry
    rw [replaceInEntries, replaceLeaves_eq_self same key hkey, replaceLeaves_eq_self same d hd,
      replaceInEntries_eq_self same es hes]
    rfl
end

/-- A value is made if a test holds, and else there is one certain fault. -/
inductive Settles (fault : Data.Fault) {α : Type} : Bool → Except Data.Fault α → Prop
  | made (a : α) : Settles fault true (.ok a)
  | failed : Settles fault false (.error fault)

namespace Settles

variable {fault : Data.Fault} {first second : Bool} {α β : Type} {x : Except Data.Fault α}

lemma guard (failed : Bool) (a : α) :
    Settles fault (!failed) (if failed then .error fault else .ok a) := by
  cases failed with
  | true => exact .failed
  | false => exact .made a

lemma map {k : α → β} (h : Settles fault first x) : Settles fault first (do return k (← x)) := by
  cases h with
  | made a => exact .made (k a)
  | failed => exact .failed

lemma bind {k : α → Except Data.Fault β} (hx : Settles fault first x)
    (hk : ∀ a, Settles fault second (k a)) : Settles fault (first && second) (x >>= k) := by
  cases hx with
  | made a => exact hk a
  | failed => exact .failed

end Settles

mutual
/-- A fault at one of the leaves is the fault of the whole. -/
lemma settles_replaceLeaves {fault : Data.Fault} (leaf : ∀ d, Settles fault (p d) (f d)) :
    ∀ d : Data, Settles fault (d.allLeaves p) (d.replaceLeaves f)
  | list ds => (settles_replaceInItems leaf ds).map
  | tuple ds => (settles_replaceInItems leaf ds).map
  | mapping es => (settles_replaceInEntries leaf es).map
  | null | bool _ | int _ | real _ | text _ | bytes _ | date _ | moment _
  | madeUp _ | set _ | shared _ _ => leaf _
lemma settles_replaceInItems {fault : Data.Fault} (leaf : ∀ d, Settles fault (p d) (f d)) :
    ∀ ds : List Data, Settles fault (allLeavesIn p ds) (replaceInItems f ds)
  | [] => .made []
  | d :: ds => (settles_replaceLeaves leaf d).bind fun _ => (settles_replaceInItems leaf ds).map
lemma settles_replaceInEntries {fault : Data.Fault} (leaf : ∀ d, Settles fault (p d) (f d)) :
    ∀ es : List (Data × Data), Settles fault (allLeavesInEntries p es) (replaceInEntries f es)
  | [] => .made []
  | (key, d) :: es => by
    rw [allLeavesInEntries, Bool.and_assoc]
    exact (settles_replaceLeaves leaf key).bind fun _ =>
      (settles_replaceLeaves leaf d).bind fun _ => (settles_replaceInEntries leaf es).map
end

end

/-- Whether a value is a tree of mappings, lists, rows and scalars: none of it is kept elsewhere,
and there is no set in it. -/
def isTree (d : Data) : Bool := d.allLeaves fun
  | set _ | shared _ _ => false
  | _ => true

/-- Whether all integers in a value can be written in digits. -/
def isSpellable (d : Data) : Bool := d.allLeaves fun d => !d.isTooLong

end Data

namespace Store

lemma view_of_isTree (s : Store) {d : Data} (h : d.isTree) : s.view d = d := by
  cases d with
  | shared => exact absurd h Bool.false_ne_true
  | _ => rfl

/-- Where nothing is kept elsewhere, only an integer can keep a value from being shown. -/
theorem settles_shown (d : Data) :
    Data.Settles .integerTooLong d.isSpellable (({} : Store).shown d) := by
  refine Data.settles_replaceLeaves (fun d => ?_) d
  cases d with
  | shared => exact .made Data.null
  | _ => exact .guard _ _

end Store
end MarkedShader
