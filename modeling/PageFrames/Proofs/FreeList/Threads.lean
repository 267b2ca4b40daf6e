/-
# The sequence of a free list

A free list threads a sequence of pages through a table if the sequence is a ring of the links,
each page leading to the next one and that one back to it, and the head of the list is the first
page.  No page comes twice.

Each operation on a list is an operation on its sequence: `push` adds a page at the end, `erase`
takes one out, `pop` takes the first, `append` puts another sequence behind, and `turnTo` rotates.
None of them ends with a fault, and none changes anything but the links of the pages on the lists
it is given, so a sequence beside it, and every column that has nothing to do with links, stays
as it is.
-/
import PageFrames.FreeList.Basic
import PageFrames.Proofs.Column
import PageFrames.Proofs.Ring

namespace PageFrames

/-! ## 1. Changing a link -/

namespace Table

variable {table table' : Table} {a b x y page : Page}

/-- The table with another link in the row of a page. -/
def withLink (page : Page) (link : Link) (table : Table) : Table :=
  table.modify page.toNat ({ · with link })

/-- The table with another next page in the row of a page. -/
def withNext (page next : Page) (table : Table) : Table :=
  table.modify page.toNat fun row => { row with link := { row.link with next } }

/-- The table with another page before it in the row of a page. -/
def withPrev (page prev : Page) (table : Table) : Table :=
  table.modify page.toNat fun row => { row with link := { row.link with prev } }

@[simp] theorem size_withLink (link : Link) : (withLink page link table).size = table.size := by
  simp [withLink]

@[simp] theorem size_withNext : (withNext page a table).size = table.size := by simp [withNext]

@[simp] theorem size_withPrev : (withPrev page a table).size = table.size := by simp [withPrev]

theorem column_withLink_self {link : Link} (h : page.toNat < table.size) :
    column Descriptor.link (withLink page link table) page = some link := by
  rw [withLink, column_modify, if_pos rfl]
  exact column_const h link

theorem getElem?_withLink_of_ne {link : Link} (h : x ≠ page) :
    (withLink page link table)[x.toNat]? = table[x.toNat]? :=
  getElem?_modify_of_ne h

theorem column_next_withNext_self (h : page.toNat < table.size) :
    column Descriptor.next (withNext page a table) page = some a := by
  rw [withNext, column_modify, if_pos rfl]
  exact column_const h a

theorem column_next_withNext_of_ne (h : x ≠ page) :
    column Descriptor.next (withNext page a table) x = column Descriptor.next table x := by
  rw [withNext, column_modify, if_neg h]

theorem column_prev_withNext :
    column Descriptor.prev (withNext page a table) x = column Descriptor.prev table x :=
  column_modify_of_keeps (f := Descriptor.prev)
    (g := fun row => { row with link := { row.link with next := a } }) (fun _ => rfl) table page x

theorem column_prev_withPrev_self (h : page.toNat < table.size) :
    column Descriptor.prev (withPrev page a table) page = some a := by
  rw [withPrev, column_modify, if_pos rfl]
  exact column_const h a

theorem column_prev_withPrev_of_ne (h : x ≠ page) :
    column Descriptor.prev (withPrev page a table) x = column Descriptor.prev table x := by
  rw [withPrev, column_modify, if_neg h]

theorem column_next_withPrev :
    column Descriptor.next (withPrev page a table) x = column Descriptor.next table x :=
  column_modify_of_keeps (f := Descriptor.next)
    (g := fun row => { row with link := { row.link with prev := a } }) (fun _ => rfl) table page x

theorem relinked_withLink {pages : List Page} {link : Link} (h : page ∈ pages) :
    Relinked pages table (withLink page link table) := relinked_modify h fun _ => rfl

theorem relinked_withNext {pages : List Page} (h : page ∈ pages) :
    Relinked pages table (withNext page a table) := relinked_modify h fun _ => rfl

theorem relinked_withPrev {pages : List Page} (h : page ∈ pages) :
    Relinked pages table (withPrev page a table) := relinked_modify h fun _ => rfl

theorem yields_setLink {link : Link} (h : page.toNat < table.size) :
    (setLink page link).Yields table (.ok ()) (withLink page link table) := yields_update _ h

theorem yields_setNext (h : page.toNat < table.size) :
    (setNext page a).Yields table (.ok ()) (withNext page a table) := yields_update _ h

theorem yields_setPrev (h : page.toNat < table.size) :
    (setPrev page a).Yields table (.ok ()) (withPrev page a table) := yields_update _ h

/-! ## 2. Pages linked to each other -/

/-- The row of `a` names `b` as the next page, and the row of `b` names `a` as the one before. -/
def Linked (table : Table) (a b : Page) : Prop :=
  table.column Descriptor.next a = some b ∧ table.column Descriptor.prev b = some a

instance (table : Table) : DecidableRel table.Linked :=
  fun _ _ => inferInstanceAs (Decidable (_ ∧ _))

theorem Linked.lt_left (h : table.Linked a b) : a.toNat < table.size := lt_of_column_eq_some h.1

theorem Linked.lt_right (h : table.Linked a b) : b.toNat < table.size := lt_of_column_eq_some h.2

theorem Linked.congr (h : table.Linked a b) (ha : table'[a.toNat]? = table[a.toNat]?)
    (hb : table'[b.toNat]? = table[b.toNat]?) : table'.Linked a b :=
  ⟨(column_congr_row ha).trans h.1, (column_congr_row hb).trans h.2⟩

/-- Two pages are joined by naming each in the row of the other. -/
theorem linked_join (ha : a.toNat < table.size) (hb : b.toNat < table.size) :
    (withPrev b a (withNext a b table)).Linked a b :=
  ⟨column_next_withPrev.trans (column_next_withNext_self ha),
    column_prev_withPrev_self (by simpa using hb)⟩

/-- Naming another page in a row spares the links that do not use this part of the row. -/
theorem Linked.withNext (h : table.Linked x y) (hx : x ≠ page) :
    (withNext page a table).Linked x y :=
  ⟨(column_next_withNext_of_ne hx).trans h.1, column_prev_withNext.trans h.2⟩

theorem Linked.withPrev (h : table.Linked x y) (hy : y ≠ page) :
    (withPrev page a table).Linked x y :=
  ⟨column_next_withPrev.trans h.1, (column_prev_withPrev_of_ne hy).trans h.2⟩

theorem Linked.withLink {link : Link} (h : table.Linked x y) (hx : x ≠ page) (hy : y ≠ page) :
    (withLink page link table).Linked x y :=
  h.congr (getElem?_withLink_of_ne hx) (getElem?_withLink_of_ne hy)

/-! ## 3. A page between two others -/

/-- The table with `page` put between `a` and `b`. -/
def splice (a page b : Page) (table : Table) : Table :=
  withPrev b page (withNext a page (withLink page ⟨a, b⟩ table))

theorem linked_splice_left (ha : a.toNat < table.size) (hp : page.toNat < table.size)
    (hb : page ≠ b) : (splice a page b table).Linked a page := by
  constructor
  · rw [splice, column_next_withPrev]
    exact column_next_withNext_self (by simpa using ha)
  · rw [splice, column_prev_withPrev_of_ne hb, column_prev_withNext]
    exact (column_comp Link.prev _ _ _).trans (congrArg _ (column_withLink_self hp))

theorem linked_splice_right (hb : b.toNat < table.size) (hp : page.toNat < table.size)
    (ha : page ≠ a) : (splice a page b table).Linked page b := by
  constructor
  · rw [splice, column_next_withPrev, column_next_withNext_of_ne ha]
    exact (column_comp Link.next _ _ _).trans (congrArg _ (column_withLink_self hp))
  · exact column_prev_withPrev_self (by simpa using hb)

/-- Of the links between other pages, only the one that the new page comes into is lost. -/
theorem Linked.splice (h : table.Linked x y) (hx : x ≠ page) (hy : y ≠ page) (hxa : x ≠ a)
    (hyb : y ≠ b) : (splice a page b table).Linked x y :=
  ((h.withLink hx hy).withNext hxa).withPrev hyb

theorem relinked_splice {pages : List Page} (ha : a ∈ pages) (hp : page ∈ pages)
    (hb : b ∈ pages) : Relinked pages table (splice a page b table) :=
  ((relinked_withLink hp).trans (relinked_withNext ha)).trans (relinked_withPrev hb)

end Table

/-! ## 4. Lists and their sequences -/

namespace FreeList

open Table

variable {list other : FreeList} {table table' : Table} {xs ys : List Page} {page : Page}

/-- The list threads the sequence `xs` of pages through the table. -/
structure Threads (list : FreeList) (table : Table) (xs : List Page) : Prop where
  head : list.head = xs.head?
  nodup : xs.Nodup
  ring : Ring table.Linked xs

instance (list : FreeList) (table : Table) (xs : List Page) : Decidable (list.Threads table xs) :=
  decidable_of_iff (list.head = xs.head? ∧ xs.Nodup ∧ Ring table.Linked xs)
    ⟨fun ⟨head, nodup, ring⟩ => ⟨head, nodup, ring⟩, fun h => ⟨h.head, h.nodup, h.ring⟩⟩

theorem threads_empty (table : Table) : empty.Threads table [] := ⟨rfl, List.nodup_nil, ring_nil⟩

theorem Threads.lt_size (h : list.Threads table xs) (hp : page ∈ xs) :
    page.toNat < table.size := by
  obtain ⟨next, -, hnext⟩ := h.ring.exists_next hp
  exact hnext.lt_left

/-- A sequence is not concerned by what happens to pages that are not on it. -/
theorem Threads.congr (h : list.Threads table xs)
    (hrows : ∀ p ∈ xs, table'[p.toNat]? = table[p.toNat]?) : list.Threads table' xs := by
  refine ⟨h.head, h.nodup, h.ring.imp_of_mem ?_⟩
  intro a ha b hb hab
  exact hab.congr (hrows a ha) (hrows b hb)

theorem Threads.eq_nil (h : list.Threads table xs) (hlist : list.head = none) : xs = [] :=
  List.head?_eq_none_iff.mp (h.head.symm.trans hlist)

/-- In a sequence that is not empty the last page is before the first. -/
theorem Threads.exists_last (h : list.Threads table xs) {head : Page}
    (hlist : list.head = some head) :
    ∃ last, xs.head? = some head ∧ xs.getLast? = some last ∧ table.Linked last head ∧
      last ∈ xs ∧ head ∈ xs := by
  have hhead : xs.head? = some head := h.head.symm.trans hlist
  have hne : xs ≠ [] := by
    rintro rfl
    simp at hhead
  have hlast := List.getLast?_eq_some_getLast hne
  exact ⟨_, hhead, hlast, h.ring.closed hlast hhead, List.getLast_mem hne,
    List.mem_of_head? hhead⟩

/-! ## 5. Adding a page -/

/-- **A page that is pushed comes last.** The head stays, since the ring is entered where it was;
only when the list was empty is the page its own successor and the new head. No link is written but
those of the list and of the page. -/
theorem Threads.push (h : list.Threads table xs) (hp : page ∉ xs)
    (hsize : page.toNat < table.size) :
    ∃ list' table', (list.push page).Yields table (.ok list') table' ∧
      list'.Threads table' (xs ++ [page]) ∧ Relinked (xs ++ [page]) table table' := by
  cases hlist : list.head with
  | none =>
    obtain rfl := h.eq_nil hlist
    have hlink : column Descriptor.link (withLink page (.toSelf page) table) page =
        some (.toSelf page) := column_withLink_self hsize
    refine ⟨{ head := page }, withLink page (.toSelf page) table, ?_, ⟨rfl, by simp, ?_⟩,
      relinked_withLink (by simp)⟩
    · rw [FreeList.push, hlist]
      exact .bind (yields_setLink hsize) (Action.yields_pure _ _)
    · refine ring_cons_iff.mpr (List.isChain_pair.mpr ⟨?_, ?_⟩)
      · exact (column_comp Link.next _ _ _).trans (congrArg _ hlink)
      · exact (column_comp Link.prev _ _ _).trans (congrArg _ hlink)
  | some head =>
    obtain ⟨last, hhead, hlast, hclosed, hlmem, hhmem⟩ := h.exists_last hlist
    have hpl : last ≠ page := fun e => hp (e ▸ hlmem)
    have hph : head ≠ page := fun e => hp (e ▸ hhmem)
    obtain ⟨row, hrow, hprev⟩ := column_eq_some_iff.mp hclosed.2
    have hlt := hclosed.lt_left
    have hht := hclosed.lt_right
    refine ⟨list, splice last page head table, ?_, ⟨?_, ?_, ?_⟩,
      relinked_splice (by simp [hlmem]) (by simp) (by simp [hhmem])⟩
    · rw [FreeList.push, hlist]
      refine .bind (yields_read hrow) ?_
      rw [show row.link.prev = last from hprev]
      exact .bind (yields_setLink hsize)
        (.bind (yields_setNext (by simpa using hlt))
          (.bind (yields_setPrev (by simpa using hht)) (Action.yields_pure _ _)))
    · rw [hlist, List.head?_append, hhead]
      rfl
    · rw [List.nodup_append]
      refine ⟨h.nodup, by simp, fun a ha b hb e => hp ?_⟩
      rw [List.mem_singleton] at hb
      exact hb ▸ e ▸ ha
    · have hold : xs.IsChain (splice last page head table).Linked :=
        isChain_of_inner h.nodup h.ring.isChain fun a ha b hb hal hbh hab =>
          hab.splice (fun e => hp (e ▸ ha)) (fun e => hp (e ▸ hb)) (fun e => hal (e ▸ hlast))
            fun e => hbh (e ▸ hhead)
      refine ring_append hold (.singleton page) ?_ ?_ (List.ne_nil_of_mem hhmem) (by simp)
      · intro l hl f hf
        obtain rfl : last = l := Option.some.inj (hlast.symm.trans hl)
        obtain rfl : page = f := by simpa using hf
        exact linked_splice_left hlt hsize hph.symm
      · intro l hl f hf
        obtain rfl : page = l := by simpa using hl
        obtain rfl : head = f := Option.some.inj (hhead.symm.trans hf)
        exact linked_splice_right hht hsize hpl.symm

/-! ## 6. Taking a page out -/

/-- In a sequence of several pages, a page is between two others. -/
theorem Threads.exists_neighbours {pre post : List Page}
    (h : list.Threads table (pre ++ page :: post)) (hne : post ++ pre ≠ []) :
    ∃ last first, (post ++ pre).getLast? = some last ∧ (post ++ pre).head? = some first ∧
      table.Linked last page ∧ table.Linked page first ∧ last ∈ post ++ pre ∧
      first ∈ post ++ pre := by
  have hring : Ring table.Linked (page :: (post ++ pre)) := h.ring.rotate
  have hlast := List.getLast?_eq_some_getLast hne
  have hfirst := List.head?_eq_some_head hne
  refine ⟨_, _, hlast, hfirst, hring.closed ?_ rfl, ?_, List.getLast_mem hne, List.head_mem hne⟩
  · rw [List.getLast?_cons, hlast]
    rfl
  · exact (List.isChain_cons.mp hring.isChain).1 _ hfirst

/-- **A page that is erased is on no list any more,** and the others stay in their order. -/
theorem Threads.erase {pre post : List Page} (h : list.Threads table (pre ++ page :: post)) :
    ∃ list' table', (list.erase page).Yields table (.ok list') table' ∧
      list'.Threads table' (pre ++ post) ∧ Relinked (pre ++ page :: post) table table' ∧
      column Descriptor.link table' page = some .none := by
  have hsize : page.toNat < table.size := h.lt_size (by simp)
  have hperm : (pre ++ page :: post).Perm (page :: post ++ pre) := List.perm_append_comm
  have hnodup : (page :: (post ++ pre)).Nodup := hperm.nodup_iff.mp h.nodup
  obtain ⟨hpage, hrest⟩ := List.nodup_cons.mp hnodup
  by_cases hne : post ++ pre = []
  · obtain ⟨rfl, rfl⟩ := List.append_eq_nil_iff.mp hne
    have hself : table.Linked page page := h.ring.closed rfl rfl
    obtain ⟨row, hrow, hnext⟩ := column_eq_some_iff.mp hself.1
    refine ⟨empty, withLink page .none table, ?_, threads_empty _, relinked_withLink (by simp),
      column_withLink_self hsize⟩
    refine .bind (yields_read hrow) ?_
    dsimp only
    rw [if_pos (show row.link.next = page from hnext)]
    exact .bind (yields_setLink hsize) (Action.yields_pure _ _)
  · obtain ⟨last, first, hl, hf, hlp, hpf, hlmem, hfmem⟩ := h.exists_neighbours hne
    obtain ⟨row, hrow, hnext⟩ := column_eq_some_iff.mp hpf.1
    obtain ⟨row', hrow', hprev⟩ := column_eq_some_iff.mp hlp.2
    obtain rfl : row = row' := Option.some.inj (hrow.symm.trans hrow')
    have hlpage : last ≠ page := fun e => hpage (e ▸ hlmem)
    have hfpage : first ≠ page := fun e => hpage (e ▸ hfmem)
    have hmem : ∀ p ∈ post ++ pre, p ∈ pre ++ page :: post := by
      intro p hp
      simp only [List.mem_append, List.mem_cons] at hp ⊢
      tauto
    refine ⟨if list.head = some page then { head := first } else list,
      withLink page .none (withPrev first last (withNext last first table)), ?_, ⟨?_, ?_, ?_⟩,
      ((relinked_withNext (hmem _ hlmem)).trans (relinked_withPrev (hmem _ hfmem))).trans
        (relinked_withLink (by simp)), column_withLink_self (by simpa using hsize)⟩
    · refine .bind (yields_read hrow) ?_
      dsimp only
      rw [show row.link.next = first from hnext, show row.link.prev = last from hprev,
        if_neg hfpage]
      exact .bind (yields_setNext hlp.lt_left) (.bind (yields_setPrev (by simpa using hpf.lt_right))
        (.bind (yields_setLink (by simpa using hsize)) (Action.yields_pure _ _)))
    · rw [h.head]
      rcases pre with _ | ⟨q, pre⟩
      · simpa using hf.symm
      · have hq : q ≠ page := fun e => hpage (by simp [e])
        simp [hq, h.head]
    · exact (List.perm_append_comm.nodup_iff).mp hrest
    · refine Ring.rotate (ring_iff.mpr ⟨?_, ?_⟩)
      · have hchain : (post ++ pre).IsChain table.Linked :=
          (List.isChain_cons.mp (Ring.isChain h.ring.rotate)).2
        refine isChain_of_inner hrest hchain ?_
        intro a ha b hb hal hbf hab
        exact ((hab.withNext fun e => hal (e ▸ hl)).withPrev fun e => hbf (e ▸ hf)).withLink
          (fun e => hpage (e ▸ ha)) fun e => hpage (e ▸ hb)
      · intro l hl' f hf'
        obtain rfl : last = l := Option.some.inj (hl.symm.trans hl')
        obtain rfl : first = f := Option.some.inj (hf.symm.trans hf')
        exact (linked_join hlp.lt_left hpf.lt_right).withLink hlpage hfpage

/-- **The page that is popped was the first.** -/
theorem Threads.pop (h : list.Threads table (page :: xs)) :
    ∃ list' table', list.pop.Yields table (.ok (some page, list')) table' ∧
      list'.Threads table' xs ∧ Relinked (page :: xs) table table' ∧
      column Descriptor.link table' page = some .none := by
  have h' : list.Threads table ([] ++ page :: xs) := h
  obtain ⟨list', table', hyields, hthreads, hlinks, hnone⟩ := h'.erase
  refine ⟨list', table', ?_, hthreads, hlinks, hnone⟩
  rw [FreeList.pop, h.head]
  exact .bind hyields (Action.yields_pure _ _)

/-- Nothing is popped from a list without pages, and nothing happens to it. -/
theorem Threads.exists_pop (h : list.Threads table xs) :
    ∃ list' table', list.pop.Yields table (.ok (xs.head?, list')) table' ∧
      list'.Threads table' xs.tail ∧ Relinked xs table table' ∧
      ∀ page, xs.head? = some page → column Descriptor.link table' page = some .none := by
  cases xs with
  | nil =>
    refine ⟨list, table, ?_, h, Relinked.refl _ _, fun _ hr => nomatch hr⟩
    rw [FreeList.pop, h.head]
    exact Action.yields_pure _ _
  | cons page xs =>
    obtain ⟨list', table', hyields, hthreads, hrelinked, hnone⟩ := h.pop
    refine ⟨list', table', hyields, hthreads, hrelinked, fun p hp => ?_⟩
    obtain rfl := Option.some.inj hp
    exact hnone

/-! ## 7. Joining and turning -/

/-- **The pages of a list that is appended come last, in their order.** The two rings are cut open
at their heads and crossed, which writes at four places however long the lists are. That no page is
on both is needed: a ring that is crossed with itself at another page falls in two. -/
theorem Threads.append (h : list.Threads table xs) (h' : other.Threads table ys)
    (hdisj : xs.Disjoint ys) :
    ∃ list' table', (list.append other).Yields table (.ok list') table' ∧
      list'.Threads table' (xs ++ ys) ∧ Relinked (xs ++ ys) table table' := by
  cases hother : other.head with
  | none =>
    obtain rfl := h'.eq_nil hother
    refine ⟨list, table, ?_, by simpa using h, Relinked.refl _ _⟩
    rw [FreeList.append, hother]
    exact Action.yields_pure _ _
  | some first =>
    cases hlist : list.head with
    | none =>
      obtain rfl := h.eq_nil hlist
      refine ⟨other, table, ?_, h', Relinked.refl _ _⟩
      rw [FreeList.append, hother, hlist]
      exact Action.yields_pure _ _
    | some head =>
      obtain ⟨tail, hhead, htail, hth, htmem, hhmem⟩ := h.exists_last hlist
      obtain ⟨last, hfirst, hlast, hlf, hlmem, hfmem⟩ := h'.exists_last hother
      obtain ⟨row, hrow, hprev⟩ := column_eq_some_iff.mp hth.2
      obtain ⟨row', hrow', hprev'⟩ := column_eq_some_iff.mp hlf.2
      have hne : ∀ a ∈ xs, ∀ b ∈ ys, a ≠ b := fun a ha b hb e => hdisj ha (e ▸ hb)
      refine ⟨list, withPrev head last (withNext last head
        (withPrev first tail (withNext tail first table))), ?_, ⟨?_, ?_, ?_⟩, ?_⟩
      · rw [FreeList.append, hother, hlist]
        refine .bind (yields_read hrow) (.bind (yields_read hrow') ?_)
        rw [show row.link.prev = tail from hprev, show row'.link.prev = last from hprev']
        exact .bind (yields_setNext hth.lt_left)
          (.bind (yields_setPrev (by simpa using hlf.lt_right))
            (.bind (yields_setNext (by simpa using hlf.lt_left))
              (.bind (yields_setPrev (by simpa using hth.lt_right)) (Action.yields_pure _ _))))
      · rw [hlist, List.head?_append, hhead]
        rfl
      · exact List.nodup_append.mpr ⟨h.nodup, h'.nodup, hne⟩
      · refine ring_append ?_ ?_ ?_ ?_ (List.ne_nil_of_mem hhmem) (List.ne_nil_of_mem hfmem)
        · refine isChain_of_inner h.nodup h.ring.isChain ?_
          intro a ha b hb hat hbh hab
          exact (((hab.withNext fun e => hat (e ▸ htail)).withPrev
            (hne b hb first hfmem)).withNext (hne a ha last hlmem)).withPrev
              fun e => hbh (e ▸ hhead)
        · refine isChain_of_inner h'.nodup h'.ring.isChain ?_
          intro a ha b hb hal hbf hab
          exact (((hab.withNext (hne tail htmem a ha).symm).withPrev
            fun e => hbf (e ▸ hfirst)).withNext fun e => hal (e ▸ hlast)).withPrev
              (hne head hhmem b hb).symm
        · intro l hl f hf
          obtain rfl : tail = l := Option.some.inj (htail.symm.trans hl)
          obtain rfl : first = f := Option.some.inj (hfirst.symm.trans hf)
          exact ((linked_join hth.lt_left hlf.lt_right).withNext
            (hne tail htmem last hlmem)).withPrev (hne head hhmem first hfmem).symm
        · intro l hl f hf
          obtain rfl : last = l := Option.some.inj (hlast.symm.trans hl)
          obtain rfl : head = f := Option.some.inj (hhead.symm.trans hf)
          exact linked_join (by simpa using hlf.lt_left) (by simpa using hth.lt_right)
      · exact (((relinked_withNext (by simp [htmem])).trans
          (relinked_withPrev (by simp [hfmem]))).trans
            (relinked_withNext (by simp [hlmem]))).trans (relinked_withPrev (by simp [hhmem]))

/-- **A list that is turned to one of its pages begins with it.** -/
theorem Threads.turnTo (h : list.Threads table (xs ++ page :: ys)) :
    ∃ list', list.turnTo page = .ok list' ∧ list'.Threads table (page :: ys ++ xs) := by
  refine ⟨{ head := page }, ?_, rfl, List.perm_append_comm.nodup_iff.mp h.nodup, h.ring.rotate⟩
  have hhead : list.isEmpty = false := by
    rw [isEmpty, h.head]
    cases xs <;> rfl
  rw [FreeList.turnTo, hhead]
  rfl

end FreeList

end PageFrames
