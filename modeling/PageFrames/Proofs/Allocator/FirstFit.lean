/-
# First fit

The search for a run goes along the free list once, from its head to its tail, and ends with the
first run that is long enough (`Pool.Searched`).  It does not go on from the tail to the head, so a
run that is broken there is none.

How far the search goes is said by a search that notes the pages whose rows it reads
(`Pool.firstRunNoted`).  The notes are beside the point of the search, which answers the same
without them (`Pool.firstRunNoted_fst`), and they are complete: rows that are not noted do not
matter (`Pool.extendRunNoted_congr`).

A request that needs a run, and must do with the free list as it is, therefore takes the first run
that the list shows, or is refused and has changed nothing (`Pool.FitAnswer`).
-/
import PageFrames.Proofs.Allocator.Requests
import PageFrames.Proofs.Pool.Serving

namespace PageFrames

open Table

/-! ## 1. The search in a sequence -/

section Sequence

variable {count i j : Nat} {xs : List Page} {start : Page}

/-- There is one first run only. -/
theorem LeastRun.unique (h : LeastRun count xs i) (h' : LeastRun count xs j) : i = j :=
  Nat.le_antisymm (h.2 j h'.1) (h'.2 i h.1)

theorem runPage_eq_some_iff (hcount : 0 < count) :
    runPage count xs = some start ↔ ∃ i, LeastRun count xs i ∧ xs[i]? = some start := by
  constructor
  · exact runPage_eq_some hcount
  · rintro ⟨i, hleast, hi⟩
    cases hpage : runPage count xs with
    | none => exact absurd hleast.1 (runPage_eq_none hcount hpage i)
    | some page =>
      obtain ⟨j, hleast', hj⟩ := runPage_eq_some hcount hpage
      obtain rfl := hleast.unique hleast'
      exact hj.symm.trans hi

theorem runPage_eq_none_iff (hcount : 0 < count) :
    runPage count xs = none ↔ ∀ i, ¬ RunAt count xs i := by
  constructor
  · exact runPage_eq_none hcount
  · intro hnone
    cases hpage : runPage count xs with
    | none => rfl
    | some page =>
      obtain ⟨i, hleast, -⟩ := runPage_eq_some hcount hpage
      exact absurd hleast.1 (hnone i)

end Sequence

namespace Pool

/-! ## 2. What the search reads -/

/-- What a search finds, with the pages whose rows it reads, in their order. -/
abbrev Noted := Except Fault (Option Page × List Page)

/-- Notes that the row of a page was read before. -/
def note (page : Page) (found : Noted) : Noted :=
  found.map fun (answer, reads) => (answer, page :: reads)

/-- The search of `extendRun`, with notes. -/
def extendRunNoted (table : Table) (count : Nat) (start last : Page) (length : Nat) :
    (rest : Nat) → Noted
  | 0 => .ok (if count ≤ length then some start else none, [])
  | rest + 1 =>
    if count ≤ length then
      .ok (some start, [])
    else do
      let next := (← table.row last).next
      if next = (← last.succExact) then
        note last (extendRunNoted table count start next (length + 1) rest)
      else
        note last (extendRunNoted table count next next 1 rest)

/-- The search of `firstRun`, with notes. -/
def firstRunNoted (pool : Pool) (count : Word) : Noted :=
  match pool.free.head with
  | none => .ok (none, [])
  | some head => extendRunNoted pool.table count.toNat head head 1 (pool.freePages.toNat - 1)

section Notes

variable {table table' : Table} {count length rest : Nat} {start last page : Page} {found : Noted}
  {answer : Option Page} {reads pages : List Page}

theorem note_fst : (note page found).map Prod.fst = found.map Prod.fst := by
  cases found <;> rfl

theorem note_eq_ok_iff : note page found = .ok (answer, reads) ↔
    ∃ later, found = .ok (answer, later) ∧ reads = page :: later := by
  constructor
  · intro h
    cases found with
    | error fault => cases h
    | ok noted =>
      cases h
      exact ⟨noted.2, rfl, rfl⟩
  · rintro ⟨later, rfl, rfl⟩
    rfl

theorem extendRunNoted_fst (table : Table) (count : Nat) (start last : Page) (length rest : Nat) :
    (extendRunNoted table count start last length rest).map Prod.fst =
      extendRun table count start last length rest := by
  induction rest generalizing start last length with
  | zero => rfl
  | succ rest ih =>
    rw [extendRunNoted, extendRun]
    by_cases hc : count ≤ length
    · rw [if_pos hc, if_pos hc]
      rfl
    · rw [if_neg hc, if_neg hc]
      cases table.row last with
      | error fault => rfl
      | ok row =>
        cases last.succExact with
        | error fault => rfl
        | ok succ =>
          show Except.map Prod.fst (ite (row.next = succ) _ _) = ite (row.next = succ) _ _
          split
          · exact note_fst.trans (ih _ _ _)
          · exact note_fst.trans (ih _ _ _)

/-- **Without its notes it is the search.** -/
theorem firstRunNoted_fst (pool : Pool) (count : Word) :
    (pool.firstRunNoted count).map Prod.fst = pool.firstRun count := by
  rw [firstRunNoted, firstRun]
  cases pool.free.head with
  | none => rfl
  | some head => exact extendRunNoted_fst _ _ _ _ _ _

/-- One step of the search reads one row, and goes on from there as the row says. -/
theorem exists_extendRunNoted_succ (hmore : ¬ count ≤ length) {succ : Page}
    (hsucc : last.succExact = .ok succ) (row : Descriptor) :
    ∃ start' length', ∀ table : Table, table.row last = .ok row →
      extendRunNoted table count start last length (rest + 1) =
        note last (extendRunNoted table count start' row.next length' rest) := by
  by_cases hnext : row.next = succ
  · refine ⟨start, length + 1, ?_⟩
    intro table hrow
    rw [extendRunNoted, if_neg hmore, hrow, hsucc]
    exact if_pos hnext
  · refine ⟨row.next, 1, ?_⟩
    intro table hrow
    rw [extendRunNoted, if_neg hmore, hrow, hsucc]
    exact if_neg hnext

/-- **Rows that are not noted do not matter.** -/
theorem extendRunNoted_congr
    (h : extendRunNoted table count start last length rest = .ok (answer, reads))
    (hrows : ∀ p ∈ reads, table'[p.toNat]? = table[p.toNat]?) :
    extendRunNoted table' count start last length rest = .ok (answer, reads) := by
  induction rest generalizing start last length reads with
  | zero => exact h
  | succ rest ih =>
    by_cases hdone : count ≤ length
    · rw [extendRunNoted, if_pos hdone] at h ⊢
      exact h
    · obtain ⟨row, hrow, succ, hsucc⟩ : ∃ row, table.row last = .ok row ∧
          ∃ succ, last.succExact = .ok succ := by
        rw [extendRunNoted, if_neg hdone] at h
        obtain ⟨row, hrow, h⟩ := exists_of_bind_eq_ok h
        obtain ⟨succ, hsucc, -⟩ := exists_of_bind_eq_ok h
        exact ⟨row, hrow, succ, hsucc⟩
      obtain ⟨start', length', hstep⟩ := exists_extendRunNoted_succ hdone hsucc row
      rw [hstep table hrow] at h
      obtain ⟨later, hlater, rfl⟩ := note_eq_ok_iff.mp h
      rw [List.forall_mem_cons] at hrows
      have hrow' : table'.row last = .ok row := by
        rw [row_eq_ok_iff, hrows.1]
        exact row_eq_ok_iff.mp hrow
      rw [hstep table' hrow', ih hlater hrows.2]
      rfl

/-- **Along a chain of links each row is read once,** in their order, and the last one is not. -/
theorem exists_extendRunNoted (hsmall : table.size ≤ Page.nil.toNat)
    (h : (last :: pages).IsChain (table.Leads Descriptor.next)) :
    ∃ answer reads, extendRunNoted table count start last length pages.length =
        .ok (answer, reads) ∧ reads <+: (last :: pages).dropLast := by
  induction pages generalizing start last length with
  | nil => exact ⟨_, [], rfl, List.nil_prefix⟩
  | cons next pages ih =>
    by_cases hdone : count ≤ length
    · rw [List.length_cons, extendRunNoted, if_pos hdone]
      exact ⟨_, [], rfl, List.nil_prefix⟩
    · rw [List.isChain_cons_cons] at h
      obtain ⟨row, hrow, rfl⟩ := h.1.exists_row
      have hsucc : last.succExact = .ok (last + 1) := by
        rw [Page.succExact, if_neg]
        rintro rfl
        exact absurd h.1.lt_size (Nat.not_lt.mpr hsmall)
      obtain ⟨start', length', hstep⟩ := exists_extendRunNoted_succ hdone hsucc row
      obtain ⟨answer, reads, hsearch, hreads⟩ : ∃ answer reads,
          extendRunNoted table count start' row.next length' pages.length = .ok (answer, reads) ∧
            reads <+: (row.next :: pages).dropLast := ih h.2
      refine ⟨answer, last :: reads, ?_, List.cons_prefix_cons.mpr ⟨rfl, hreads⟩⟩
      rw [List.length_cons, hstep table hrow]
      exact note_eq_ok_iff.mpr ⟨reads, hsearch, rfl⟩

end Notes

/-! ## 3. First fit -/

/-- How the search for `count` pages goes along a free list that has the pages in the order `xs`. -/
structure Searched (count : Word) (pool : Pool) (xs : List Page) (answer : Option Page)
    (reads : List Page) : Prop where
  noted : pool.firstRunNoted count = .ok (answer, reads)
  ends : pool.firstRun count = .ok answer
  /-- The rows are read in the order of the list, from the head on, and that of the tail never. -/
  along : reads <+: xs.dropLast
  nodup : reads.Nodup
  few : reads.length ≤ xs.length
  /-- What the other rows are makes no difference. -/
  only : ∀ table : Table, (∀ p ∈ reads, table[p.toNat]? = pool.table[p.toNat]?) →
    ({ pool with table } : Pool).firstRun count = .ok answer
  /-- The search finds the first run of that length in the order of the list. -/
  found : ∀ start, answer = some start ↔ ∃ i, LeastRun count.toNat xs i ∧ xs[i]? = some start
  missed : answer = none ↔ ∀ i, ¬ RunAt count.toNat xs i

variable {pool pool' : Pool} {xs : List Page} {count : Word} {tag : Tag}

/-- The search with notes comes to an end, and has read the rows of pages of the list. -/
theorem Balanced.exists_firstRunNoted (h : pool.Balanced xs) (count : Word) :
    ∃ answer reads, pool.firstRunNoted count = .ok (answer, reads) ∧ reads <+: xs.dropLast := by
  rw [firstRunNoted, h.threads.head]
  rcases xs with _ | ⟨x, xs⟩
  · exact ⟨none, [], rfl, List.nil_prefix⟩
  · have hlen : pool.freePages.toNat - 1 = xs.length := by
      rw [h.counted, List.length_cons]
      rfl
    dsimp only [List.head?_cons]
    rw [hlen]
    exact exists_extendRunNoted h.small.le (ring_next h.threads.ring).isChain

theorem firstRun_of_noted {answer : Option Page} {reads : List Page}
    (h : pool.firstRunNoted count = .ok (answer, reads)) : pool.firstRun count = .ok answer := by
  rw [← firstRunNoted_fst, h]
  rfl

theorem firstRunNoted_congr {answer : Option Page} {reads : List Page} {table : Table}
    (h : pool.firstRunNoted count = .ok (answer, reads))
    (hrows : ∀ p ∈ reads, table[p.toNat]? = pool.table[p.toNat]?) :
    ({ pool with table } : Pool).firstRunNoted count = .ok (answer, reads) := by
  rw [firstRunNoted] at h ⊢
  cases hhead : pool.free.head with
  | none =>
    rw [hhead] at h
    exact h
  | some head =>
    rw [hhead] at h
    exact extendRunNoted_congr h hrows

/-- **The search is first fit.**  It answers with the first run of the list, and reads each row
once, from the head on, and none behind the run. -/
theorem Balanced.exists_searched (h : pool.Balanced xs) (hcount : 0 < count.toNat) :
    ∃ answer reads, Searched count pool xs answer reads := by
  obtain ⟨answer, reads, hnoted, halong⟩ := h.exists_firstRunNoted count
  have hends := firstRun_of_noted hnoted
  obtain rfl : runPage count.toNat xs = answer :=
    Except.ok.inj ((h.firstRun_eq count).symm.trans hends)
  have hsub : reads.Sublist xs := halong.sublist.trans (List.dropLast_sublist xs)
  exact ⟨_, reads, hnoted, hends, halong, h.threads.nodup.sublist hsub, hsub.length_le,
    fun _ hrows => firstRun_of_noted (firstRunNoted_congr hnoted hrows),
    fun _ => runPage_eq_some_iff hcount, runPage_eq_none_iff hcount⟩

/-! ## 4. Requests that must do with the list as it is -/

/-- The answer to a request for a run of `count` pages that must not have the list rebuilt, between
the two pools, where the free list has the pages in the order `xs`. -/
structure FitAnswer (count : Word) (tag : Tag) (xs : List Page) (pool pool' : Pool)
    (answer : Except Refusal Page) : Prop where
  granted : (∃ page, answer = .ok page) ↔ ∃ i, RunAt count.toNat xs i
  /-- The pages taken are the first run that the list shows. -/
  earliest : ∀ page, answer = .ok page → ∃ i, LeastRun count.toNat xs i ∧ xs[i]? = some page ∧
    Took tag ((xs.drop i).take count.toNat) pool pool'
  refused : ∀ reason, answer = .error reason →
    reason = .noContiguousRun count pool.freePages ∧ pool' = pool

/-- A request that is refused has found no run. -/
theorem Balanced.fitAnswer_of_refused {reason : Refusal} (h : pool.Balanced xs)
    (hmany : 1 < count.toNat) (hfew : count.toNat ≤ pool.freePages.toNat)
    (h' : Allocates count true false tag pool xs (.ok (.error reason)) pool') :
    FitAnswer count tag xs pool pool' (.error reason) := by
  rw [h.counted] at hfew
  cases h' with
  | zeroPages hzero =>
    rw [hzero] at hmany
    exact absurd hmany (by decide)
  | outOfMemory hmemory => omega
  | absent _ _ _ _ hmay => cases hmay
  | hidden _ _ _ hnone _ =>
    refine ⟨?_, ?_, ?_⟩
    · simpa using hnone
    · rintro page ⟨⟩
    · rintro reason ⟨⟩
      exact ⟨rfl, rfl⟩

/-- A request that is granted has taken the first run. -/
theorem Balanced.fitAnswer_of_granted {first : Page} (h : pool.Balanced xs)
    (hmany : 1 < count.toNat)
    (h' : Allocates count true false tag pool xs (.ok (.ok first)) pool') :
    FitAnswer count tag xs pool pool' (.ok first) := by
  obtain ⟨line, rebuilt, hline, hserved⟩ := h.exists_line_of_granted h'
  cases hline with
  | asIs hsingle =>
    obtain hrun | hsingle := hsingle
    · cases hrun
    · omega
  | rebuilt _ _ _ hmay => cases hmay
  | @turned i _ _ hleast =>
    have hlen := hleast.1.1
    -- the run ends with the tail at the latest, so it is the same before the turn
    have htake : (xs.rotate i).take count.toNat = (xs.drop i).take count.toNat := by
      rw [hleast.rotate_eq, List.take_append_of_le_length (by rw [List.length_drop]; omega)]
    refine ⟨?_, ?_, ?_⟩
    · exact iff_of_true ⟨first, rfl⟩ ⟨i, hleast.1⟩
    · rintro page ⟨⟩
      refine ⟨i, hleast, ?_, htake ▸ hserved.toTook⟩
      rw [← List.head?_rotate (by omega)]
      exact hserved.head
    · rintro reason ⟨⟩

/-- **A request that must do with the list as it is** takes the first run that the list shows, if it
shows one. -/
theorem Balanced.exists_fitAnswer {r : Except Fault (Except Refusal Page)} (h : pool.Balanced xs)
    (hmany : 1 < count.toNat) (hfew : count.toNat ≤ pool.freePages.toNat)
    (hroom : pool.allocations.toNat < 2 ^ 64 - 1)
    (h' : Allocates count true false tag pool xs r pool') :
    ∃ answer, r = .ok answer ∧ FitAnswer count tag xs pool pool' answer := by
  cases r with
  | error fault =>
    cases h' with
    | uncounted _ _ hmay => cases hmay
    | unrecorded hfull => omega
  | ok answer =>
    refine ⟨answer, rfl, ?_⟩
    cases answer with
    | error reason => exact h.fitAnswer_of_refused hmany hfew h'
    | ok first => exact h.fitAnswer_of_granted hmany h'

/-- **First fit.**  The search for a run is first fit in the order of the free list, and so are the
requests for a run under which the list must not be rebuilt, be it by the configuration or by a
flag.  These have only what the search answers to go by: they turn the list to the run and take it,
or they are refused before anything is changed. -/
theorem Balanced.exists_firstFit (h : pool.Balanced xs) (hcount : 1 ≤ count.toNat) :
    (∃ answer reads, Searched count pool xs answer reads) ∧
    (1 < count.toNat → count.toNat ≤ pool.freePages.toNat →
      pool.allocations.toNat < 2 ^ 64 - 1 →
      (∀ tag, ∃ answer pool', (allocate count true false tag).Yields pool (.ok answer) pool' ∧
        FitAnswer count tag xs pool pool' answer) ∧
      ∀ (allocator : Allocator) (options : Options), allocator.pool = pool → allocator.Seated →
        options.flags.contiguous = true ∨ allocator.kind = .virtual →
        allocator.config.compaction = false ∨ options.flags.noCompact = true →
        ∃ answer pool', (Allocator.request count options).Yields allocator (.ok answer)
            (allocator.withPool pool') ∧
          FitAnswer count options.tag xs pool pool' answer) := by
  refine ⟨h.exists_searched hcount, ?_⟩
  intro hmany hfew hroom
  constructor
  · intro tag
    obtain ⟨r, pool', hyields, hout⟩ := h.exists_allocates count true false tag
    obtain ⟨answer, rfl, hfit⟩ := h.exists_fitAnswer hmany hfew hroom hout
    exact ⟨answer, pool', hyields, hfit⟩
  · rintro allocator options rfl hseated hcontiguous hnot
    have hneeds : allocator.needsRun options = true := by
      rw [Allocator.needsRun, Bool.or_eq_true, beq_iff_eq]
      exact hcontiguous
    have hmay : allocator.mayCompact options = false := by
      rw [Allocator.mayCompact, Bool.and_eq_false_iff, Bool.not_eq_false']
      exact hnot
    obtain ⟨r, pool', hyields, hout⟩ := hseated.exists_request h count options
    rw [Allocator.Comes, hneeds, hmay] at hout
    obtain ⟨answer, rfl, hfit⟩ := h.exists_fitAnswer hmany hfew hroom hout
    exact ⟨answer, pool', hyields, hfit⟩

end Pool

namespace Allocator

/-- Six free pages of a physical region.  On the free list the third and the fourth come before the
first and the second. -/
def shuffled : Allocator where
  region := ⟨0x10000, 0x6000⟩
  kind := .physical
  metadata := ⟨0x1000, 0x1000⟩
  config := { compaction := false }
  pool :=
    { table := #[⟨0x10000, .free, .empty, ⟨3, 1⟩, .nil⟩, ⟨0x11000, .free, .empty, ⟨0, 4⟩, .nil⟩,
        ⟨0x12000, .free, .empty, ⟨5, 3⟩, .nil⟩, ⟨0x13000, .free, .empty, ⟨2, 0⟩, .nil⟩,
        ⟨0x14000, .free, .empty, ⟨1, 5⟩, .nil⟩, ⟨0x15000, .free, .empty, ⟨4, 2⟩, .nil⟩]
      free := { head := some 5 }
      freePages := 6 }

/-- A run of two pages is the third page and the fourth. -/
theorem exists_firstFit_shuffled :
    (∃ answer reads, Pool.Searched 2 shuffled.pool [5, 2, 3, 0, 1, 4] answer reads) ∧
      ∃ pool', (request 2 .contiguous).Yields shuffled (.ok (.ok 2)) (shuffled.withPool pool') ∧
        Pool.FitAnswer 2 .empty [5, 2, 3, 0, 1, 4] shuffled.pool pool' (.ok 2) := by
  have hbal : shuffled.pool.Balanced [5, 2, 3, 0, 1, 4] := by decide +kernel
  obtain ⟨hsearch, hfit⟩ := hbal.exists_firstFit (by decide : 1 ≤ (2 : Word).toNat)
  obtain ⟨answer, pool', hyields, hanswer⟩ := (hfit (by decide) (by decide) (by decide)).2 shuffled
    .contiguous rfl (by decide) (.inl rfl) (.inl rfl)
  have hresult : ((request 2 .contiguous).run shuffled).result = .ok (.ok 2) := by decide +kernel
  obtain rfl : answer = .ok 2 := Except.ok.inj (hyields.1.symm.trans hresult)
  exact ⟨hsearch, pool', hyields, hanswer⟩

end Allocator

end PageFrames
