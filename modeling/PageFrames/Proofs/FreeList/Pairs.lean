/-
# Two lists as two sequences

Two free lists over one table stand for two sequences that have no page in common
(`ListPair.Threads`).  Each change to one of the lists is a change to its sequence
(`ListChange.result`), with the answer that the sequence gives (`ListChange.answer`), as long as
the page it names is where it should be (`ListChange.Allowed`): on this list, or on neither of them
if it is to be added.  Then no change fails, the list beside it stays as it is unless it is moved,
and of the table only links change, those of the pages that the change is about
(`ListPair.Changed`).

So any number of changes can be followed on the sequences alone (`ListPair.Follows`).
-/
import Mathlib.Data.List.Rotate
import PageFrames.FreeList.Pair
import PageFrames.Proofs.FreeList.Walks

namespace PageFrames

open Table

/-! ## 1. Changes to sequences -/

namespace ListChange

/-- The sequence of the list after the change, where `ys` is that of the list beside it. -/
def result (xs ys : List Page) : ListChange → List Page
  | push page => xs ++ [page]
  | erase page => xs.erase page
  | turnTo page => xs.rotate (xs.idxOf page)
  | pop => xs.tail
  | append => xs ++ ys

/-- The sequence of the list beside it after the change. -/
def beside (ys : List Page) : ListChange → List Page
  | append => []
  | _ => ys

/-- The page that the change answers with. -/
def answer (xs : List Page) : ListChange → Option Page
  | pop => xs.head?
  | _ => none

/-- The page that the change takes out. -/
def removed (xs : List Page) : ListChange → Option Page
  | erase page => some page
  | pop => xs.head?
  | _ => none

/-- The pages that the change is about. -/
def touched (xs ys : List Page) : ListChange → List Page
  | push page => xs ++ [page]
  | append => xs ++ ys
  | _ => xs

/-- The page that the change names has a row and is on neither list, or it is on this list. -/
def Allowed (size : Nat) (xs ys : List Page) : ListChange → Prop
  | push page => page.toNat < size ∧ page ∉ xs ∧ page ∉ ys
  | erase page => page ∈ xs
  | turnTo page => page ∈ xs
  | _ => True

instance (size : Nat) (xs ys : List Page) : DecidablePred (Allowed size xs ys) := fun change =>
  match change with
  | push _ => inferInstanceAs (Decidable (_ ∧ _ ∧ _))
  | erase page => inferInstanceAs (Decidable (page ∈ xs))
  | turnTo page => inferInstanceAs (Decidable (page ∈ xs))
  | pop => isTrue trivial
  | append => isTrue trivial

end ListChange

/-- A sequence is split at the first place of a page, which its removal takes out and the rotation
to it starts from. -/
theorem exists_erase_eq_and_rotate_eq {xs : List Page} {page : Page} (hmem : page ∈ xs) :
    ∃ pre post, xs = pre ++ page :: post ∧ xs.erase page = pre ++ post ∧
      xs.rotate (xs.idxOf page) = page :: post ++ pre := by
  obtain ⟨pre, post, rfl, hpre⟩ := List.eq_append_cons_of_mem hmem
  refine ⟨pre, post, rfl, ?_, ?_⟩
  · rw [List.erase_append_right _ hpre, List.erase_cons_head]
  · rw [List.idxOf_append_of_notMem hpre, List.idxOf_cons_self, Nat.add_zero,
      List.rotate_append_length_eq]

/-! ## 2. The parts of a pair -/

namespace ListPair

variable {pair pair' : ListPair} {slot : ListSlot} {table' : Table} {list' : FreeList}

/-- The pair with another list in a slot. -/
def set (slot : ListSlot) (list : FreeList) (pair : ListPair) : ListPair :=
  match slot with
  | .first => { pair with first := list }
  | .second => { pair with second := list }

/-- The pair over another table. -/
def withTable (table : Table) (pair : ListPair) : ListPair := { pair with table }

@[simp] theorem list_set (slot : ListSlot) : (pair.set slot list').list slot = list' := by
  cases slot <;> rfl

@[simp] theorem list_set_other (slot : ListSlot) :
    (pair.set slot list').list slot.other = pair.list slot.other := by
  cases slot <;> rfl

@[simp] theorem table_set (slot : ListSlot) : (pair.set slot list').table = pair.table := by
  cases slot <;> rfl

@[simp] theorem list_withTable (slot : ListSlot) :
    (pair.withTable table').list slot = pair.list slot := by
  cases slot <;> rfl

@[simp] theorem table_withTable : (pair.withTable table').table = table' := rfl

theorem yields_put (slot : ListSlot) (list : FreeList) (pair : ListPair) :
    (put slot list).Yields pair (.ok ()) (pair.set slot list) := ⟨rfl, rfl⟩

theorem yields_onTable {α : Type} {m : Action Table α} {r : Except Fault α}
    (h : m.Yields pair.table r table') : (onTable m).Yields pair r (pair.withTable table') := by
  cases pair
  exact h.onPart

/-! ## 3. Sequences -/

/-- The lists thread the sequences through the table, and no page is on both. -/
structure Threads (pair : ListPair) (seqs : ListSlot → List Page) : Prop where
  threads : ∀ slot, (pair.list slot).Threads pair.table (seqs slot)
  disjoint : ∀ slot, (seqs slot).Disjoint (seqs slot.other)

/-- The sequences after a change to the list in a slot. -/
def after (seqs : ListSlot → List Page) (slot : ListSlot) (change : ListChange) :
    ListSlot → List Page := fun s =>
  if s = slot then
    change.result (seqs slot) (seqs slot.other)
  else
    change.beside (seqs slot.other)

variable {seqs : ListSlot → List Page} {change : ListChange}

@[simp] theorem after_self (seqs : ListSlot → List Page) (slot : ListSlot) (change : ListChange) :
    after seqs slot change slot = change.result (seqs slot) (seqs slot.other) := if_pos rfl

@[simp] theorem after_other (seqs : ListSlot → List Page) (slot : ListSlot) (change : ListChange) :
    after seqs slot change slot.other = change.beside (seqs slot.other) := by
  cases slot <;> rfl

/-- Two lists are in order if each of them is and they have no page in common. -/
theorem threads_of_slots (slot : ListSlot) (h : (pair.list slot).Threads pair.table (seqs slot))
    (hother : (pair.list slot.other).Threads pair.table (seqs slot.other))
    (hdisj : (seqs slot).Disjoint (seqs slot.other)) : pair.Threads seqs := by
  cases slot with
  | first =>
    refine ⟨fun s => ?_, fun s => ?_⟩ <;> cases s
    · exact h
    · exact hother
    · exact hdisj
    · exact hdisj.symm
  | second =>
    refine ⟨fun s => ?_, fun s => ?_⟩ <;> cases s
    · exact hother
    · exact h
    · exact hdisj.symm
    · exact hdisj

/-- What a change comes to: the sequences are changed, the links of no other pages are, and a page
that was taken out is linked to nothing. -/
structure Changed (pair : ListPair) (seqs : ListSlot → List Page) (slot : ListSlot)
    (change : ListChange) (pair' : ListPair) : Prop where
  threads : pair'.Threads (after seqs slot change)
  relinked : Relinked (change.touched (seqs slot) (seqs slot.other)) pair.table pair'.table
  unlinked : ∀ page, change.removed (seqs slot) = some page →
    pair'.table.column Descriptor.link page = some .none

/-- A change to one list leaves the list beside it alone, if none of the pages it is about are on
that one. -/
theorem Threads.changed (h : pair.Threads seqs)
    (hthreads : list'.Threads table' (change.result (seqs slot) (seqs slot.other)))
    (hrelinked : Relinked (change.touched (seqs slot) (seqs slot.other)) pair.table table')
    (hbeside : change.beside (seqs slot.other) = seqs slot.other)
    (happart : (change.touched (seqs slot) (seqs slot.other)).Disjoint (seqs slot.other))
    (hsub : ∀ p ∈ change.result (seqs slot) (seqs slot.other),
      p ∈ change.touched (seqs slot) (seqs slot.other))
    (hunlinked : ∀ page, change.removed (seqs slot) = some page →
      table'.column Descriptor.link page = some .none) :
    Changed pair seqs slot change ((pair.withTable table').set slot list') := by
  refine ⟨threads_of_slots slot ?_ ?_ ?_, by rwa [table_set], by rwa [table_set]⟩
  · simpa using hthreads
  · simp only [list_set_other, list_withTable, table_set, table_withTable, after_other, hbeside]
    exact (h.threads slot.other).congr fun p hp => hrelinked.off p fun hp' => happart hp' hp
  · rw [after_self, after_other, hbeside]
    exact fun p hp hp' => happart (hsub p hp) hp'

/-! ## 4. What a change does -/

/-- A page that is pushed comes last on its list. -/
theorem Threads.exists_push (h : pair.Threads seqs) {page : Page}
    (hallowed : (ListChange.push page).Allowed pair.table.size (seqs slot) (seqs slot.other)) :
    ∃ pair', (apply slot (.push page)).Yields pair (.ok none) pair' ∧
      Changed pair seqs slot (.push page) pair' := by
  obtain ⟨hsize, hmem, hother⟩ := hallowed
  obtain ⟨list', table', hyields, hthreads, hrelinked⟩ := (h.threads slot).push hmem hsize
  have happart : (seqs slot ++ [page]).Disjoint (seqs slot.other) := by
    rw [List.disjoint_append_left, List.singleton_disjoint]
    exact ⟨h.disjoint slot, hother⟩
  refine ⟨(pair.withTable table').set slot list', ?_,
    h.changed hthreads hrelinked rfl happart (fun _ hp => hp) fun _ hr => nomatch hr⟩
  exact .bind (Action.yields_peek _ _) (.bind (yields_onTable hyields)
    (.bind (yields_put _ _ _) (Action.yields_pure _ _)))

/-- A page that is erased is on neither list. -/
theorem Threads.exists_erase (h : pair.Threads seqs) {page : Page} (hmem : page ∈ seqs slot) :
    ∃ pair', (apply slot (.erase page)).Yields pair (.ok none) pair' ∧
      Changed pair seqs slot (.erase page) pair' := by
  obtain ⟨pre, post, hxs, herase, -⟩ := exists_erase_eq_and_rotate_eq hmem
  have hthreads := h.threads slot
  rw [hxs] at hthreads
  obtain ⟨list', table', hyields, hthreads', hrelinked, hnone⟩ := hthreads.erase
  rw [← herase] at hthreads'
  rw [← hxs] at hrelinked
  refine ⟨(pair.withTable table').set slot list', ?_, h.changed hthreads' hrelinked rfl
    (h.disjoint slot) (fun p hp => List.mem_of_mem_erase hp) ?_⟩
  · exact .bind (Action.yields_peek _ _) (.bind (yields_onTable hyields)
      (.bind (yields_put _ _ _) (Action.yields_pure _ _)))
  · rintro p hp
    obtain rfl := Option.some.inj hp
    exact hnone

/-- A list that is turned to one of its pages begins with it. -/
theorem Threads.exists_turnTo (h : pair.Threads seqs) {page : Page} (hmem : page ∈ seqs slot) :
    ∃ pair', (apply slot (.turnTo page)).Yields pair (.ok none) pair' ∧
      Changed pair seqs slot (.turnTo page) pair' := by
  obtain ⟨pre, post, hxs, -, hrotate⟩ := exists_erase_eq_and_rotate_eq hmem
  have hthreads := h.threads slot
  rw [hxs] at hthreads
  obtain ⟨list', hturn, hthreads'⟩ := hthreads.turnTo
  rw [← hrotate] at hthreads'
  refine ⟨(pair.withTable pair.table).set slot list', ?_, h.changed hthreads' (.refl _ _) rfl
    (h.disjoint slot) (fun p hp => List.mem_rotate.mp hp) fun _ hr => nomatch hr⟩
  exact .bind (Action.yields_peek _ _) (.bind (Action.yields_liftM hturn _)
    (.bind (yields_put _ _ _) (Action.yields_pure _ _)))

/-- The page that is popped was the first one, if there was one. -/
theorem Threads.exists_pop (h : pair.Threads seqs) :
    ∃ pair', (apply slot .pop).Yields pair (.ok (seqs slot).head?) pair' ∧
      Changed pair seqs slot .pop pair' := by
  obtain ⟨list', table', hyields, hthreads', hrelinked, hunlinked⟩ :=
    (h.threads slot).exists_pop
  refine ⟨(pair.withTable table').set slot list', ?_, h.changed hthreads' hrelinked rfl
    (h.disjoint slot) (fun p hp => List.mem_of_mem_tail hp) hunlinked⟩
  exact .bind (Action.yields_peek _ _) (.bind (yields_onTable hyields)
    (.bind (yields_put _ _ _) (Action.yields_pure _ _)))

/-- The pages of the list beside this one are moved behind those of this one. -/
theorem Threads.exists_append (h : pair.Threads seqs) :
    ∃ pair', (apply slot .append).Yields pair (.ok none) pair' ∧
      Changed pair seqs slot .append pair' := by
  obtain ⟨list', table', hyields, hthreads, hrelinked⟩ :=
    (h.threads slot).append (h.threads slot.other) (h.disjoint slot)
  refine ⟨((pair.set slot.other .empty).withTable table').set slot list', ?_,
    threads_of_slots slot ?_ ?_ ?_, ?_, fun _ hr => nomatch hr⟩
  · refine .bind (Action.yields_peek _ _) (.bind (Action.yields_peek _ _)
      (.bind (yields_put _ _ _) (.bind (yields_onTable ?_)
        (.bind (yields_put _ _ _) (Action.yields_pure _ _)))))
    rw [table_set]
    exact hyields
  · rw [list_set, table_set, after_self]
    exact hthreads
  · rw [list_set_other, list_withTable, list_set, after_other]
    exact FreeList.threads_empty _
  · rw [after_other]
    exact List.disjoint_nil_right _
  · rw [table_set]
    exact hrelinked

/-- **A change that is allowed is carried out as it is on the sequences.**  It touches links of the
pages it concerns and of those of the list that it is made on, and these are on no other list. -/
theorem Threads.exists_apply (h : pair.Threads seqs)
    (hallowed : change.Allowed pair.table.size (seqs slot) (seqs slot.other)) :
    ∃ pair', (apply slot change).Yields pair (.ok (change.answer (seqs slot))) pair' ∧
      Changed pair seqs slot change pair' := by
  cases change with
  | push page => exact h.exists_push hallowed
  | erase page => exact h.exists_erase hallowed
  | turnTo page => exact h.exists_turnTo hallowed
  | pop => exact h.exists_pop
  | append => exact h.exists_append

/-! ## 5. Any number of changes -/

/-- Each change is allowed when its turn comes. -/
def AllowsAll (size : Nat) :
    (ListSlot → List Page) → List (ListSlot × ListChange) → Prop
  | _, [] => True
  | seqs, (slot, change) :: changes =>
    change.Allowed size (seqs slot) (seqs slot.other) ∧
      AllowsAll size (after seqs slot change) changes

instance decidableAllowsAll (size : Nat) : (seqs : ListSlot → List Page) →
    (changes : List (ListSlot × ListChange)) → Decidable (AllowsAll size seqs changes)
  | _, [] => isTrue trivial
  | _, (_, _) :: changes =>
    @instDecidableAnd _ _ inferInstance (decidableAllowsAll size _ changes)

/-- The lists are in order, and the walks along them find the sequences. -/
structure Shows (pair : ListPair) (seqs : ListSlot → List Page) : Prop where
  threads : pair.Threads seqs
  length : ∀ slot, (pair.list slot).length pair.table = .ok (seqs slot).length
  pages : ∀ slot bound, (seqs slot).length ≤ bound →
    (pair.list slot).pages pair.table bound = .ok (seqs slot)

theorem Threads.shows (h : pair.Threads seqs) : pair.Shows seqs :=
  ⟨h, fun slot => (h.threads slot).length_eq, fun slot _ => (h.threads slot).pages_eq⟩

/-- The changes are made one after the other, and each of them is answered and carried out as it is
on the sequences, which the lists show all the time. -/
def Follows (pair : ListPair) (seqs : ListSlot → List Page) :
    List (ListSlot × ListChange) → Prop
  | [] => pair.Shows seqs
  | (slot, change) :: changes => pair.Shows seqs ∧
    ∃ pair', (apply slot change).Yields pair (.ok (change.answer (seqs slot))) pair' ∧
      Changed pair seqs slot change pair' ∧ pair'.Follows (after seqs slot change) changes

/-- **Two lists over a table follow their sequences** through any changes that are allowed.  They
share the table but no page, so the links that a change of one of them touches are no links of the
other, and a page that is taken off one of them can be put on the other. -/
theorem Threads.follows (h : pair.Threads seqs) {changes : List (ListSlot × ListChange)}
    (hallows : AllowsAll pair.table.size seqs changes) : pair.Follows seqs changes := by
  induction changes generalizing pair seqs with
  | nil => exact h.shows
  | cons call changes ih =>
    obtain ⟨slot, change⟩ := call
    obtain ⟨hallowed, hrest⟩ := hallows
    obtain ⟨pair', hyields, hchanged⟩ := h.exists_apply hallowed
    rw [← hchanged.relinked.size_eq] at hrest
    exact ⟨h.shows, pair', hyields, hchanged, ih hchanged.threads hrest⟩

/-- Three pages on two lists are joined and taken out again: a head, a first page, and one that has
come from the other list twice. -/
theorem follows_threePages :
    (⟨.replicate 4 (.fresh 0), .empty, .empty⟩ : ListPair).Threads (fun _ => []) ∧
      (⟨.replicate 4 (.fresh 0), .empty, .empty⟩ : ListPair).Follows (fun _ => [])
        [(.first, .push 2), (.second, .push 0), (.second, .push 3), (.first, .append),
          (.first, .turnTo 3), (.second, .push 1), (.first, .erase 3), (.first, .pop),
          (.second, .append), (.second, .erase 0), (.first, .pop)] := by
  have h : (⟨.replicate 4 (.fresh 0), .empty, .empty⟩ : ListPair).Threads (fun _ => []) :=
    threads_of_slots .first (FreeList.threads_empty _) (FreeList.threads_empty _)
      (List.disjoint_nil_left _)
  exact ⟨h, h.follows (by decide +kernel)⟩

end ListPair

end PageFrames
