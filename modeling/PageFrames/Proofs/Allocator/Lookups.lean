/-
# Looking pages up

A page can be looked up by an address on it, by its page number, and by its index.  The three come
to the same thing, because an address determines its page number and a page number the index; and
each of them can be read off the page again.  So the lookups are the inverses of what a page is
asked for, and they find exactly the pages that there are (`Allocator.Lookups`).

All of it follows from what a setup checks about the region.  The checks leave a region that ends
exactly at the top of the address space, where the address after the last page does not exist, and
the lookups are right there as well.
-/
import PageFrames.Proofs.Runs

namespace PageFrames.Allocator

variable {allocator : Allocator} {page next : Page} {a : Addr} {num index : Word}

/-! ## 1. What is found -/

theorem containsPage_iff :
    allocator.containsPage page = true ↔ page.toNat < allocator.totalPages.toNat := by
  rw [containsPage, decide_eq_true_eq, UInt64.lt_iff_toNat_lt, UInt32.toNat_toUInt64]

theorem toNat_firstPageNum (allocator : Allocator) :
    allocator.firstPageNum.toNat = allocator.region.start.toNat / 4096 :=
  Addr.toNat_pageNum _

/-- The page number of a handle, whether it names a page or not. -/
theorem numberOf_eq_ok_iff :
    allocator.numberOf page = .ok num ↔
      allocator.region.start.toNat / 4096 + page.toNat = num.toNat := by
  rw [numberOf, Word.addExact_eq_ok_iff, toNat_firstPageNum, UInt32.toNat_toUInt64]

/-- The page with an index has this index, of which nothing is lost in the handle. -/
theorem pageAt_eq_some_iff (hfew : allocator.totalPages.toNat ≤ 2 ^ 32) :
    allocator.pageAt? index = some page ↔
      page.toNat < allocator.totalPages.toNat ∧ index.toNat = page.toNat := by
  rw [pageAt?]
  split <;> rename_i h <;> rw [UInt64.lt_iff_toNat_lt] at h
  · have hnat : index.toUInt32.toNat = index.toNat := by
      rw [UInt64.toNat_toUInt32]
      exact Nat.mod_eq_of_lt (by omega)
    rw [Option.some.injEq, ← UInt32.toNat_inj, hnat]
    omega
  · simp only [reduceCtorEq, false_iff]
    omega

theorem pageNum_eq_some_iff (hfew : allocator.totalPages.toNat ≤ 2 ^ 32) :
    allocator.pageNum? num = some page ↔ page.toNat < allocator.totalPages.toNat ∧
      num.toNat = allocator.region.start.toNat / 4096 + page.toNat := by
  rw [pageNum?, Option.bind_eq_bind, Option.bind_eq_some_iff]
  simp only [Word.sub?_eq_some_iff, pageAt_eq_some_iff hfew, toNat_firstPageNum]
  constructor
  · rintro ⟨index, hindex, hpage, hsame⟩
    omega
  · rintro ⟨hpage, hnum⟩
    refine ⟨page.toUInt64, ?_, hpage, UInt32.toNat_toUInt64 page⟩
    rw [UInt32.toNat_toUInt64]
    omega

/-- A page is found at the addresses that have its page number. -/
theorem pageOf_eq_some_iff (hfew : allocator.totalPages.toNat ≤ 2 ^ 32) :
    allocator.pageOf? a = some page ↔ page.toNat < allocator.totalPages.toNat ∧
      a.toNat / 4096 = allocator.region.start.toNat / 4096 + page.toNat := by
  rw [pageOf?, pageNum_eq_some_iff hfew, Addr.toNat_pageNum]

theorem pageAfter_eq_some_iff (hfew : allocator.totalPages.toNat ≤ 2 ^ 32) :
    allocator.pageAfter? page = some next ↔
      next.toNat < allocator.totalPages.toNat ∧ next.toNat = page.toNat + 1 := by
  have hlt := page.toNat_lt
  have hnat : (page.toUInt64 + 1).toNat = page.toNat + 1 := by
    rw [UInt64.toNat_add, UInt32.toNat_toUInt64, UInt64.toNat_one]
    exact Nat.mod_eq_of_lt (by omega)
  rw [pageAfter?, pageAt_eq_some_iff hfew, hnat]
  omega

/-- The numbers of the pages of a table are those from the first one on, as many as there are. -/
theorem exists_page_iff {total : Nat} (htotal : total ≤ 2 ^ 32) (first n : Nat) :
    (∃ page : Page, page.toNat < total ∧ n = first + page.toNat) ↔
      first ≤ n ∧ n < first + total := by
  constructor
  · rintro ⟨page, hpage, rfl⟩
    omega
  · rintro ⟨hle, hlt⟩
    have hnat : (n - first).toUInt32.toNat = n - first := Table.toNat_toUInt32 (by omega)
    exact ⟨(n - first).toUInt32, by omega, by omega⟩

/-- The address of a page of the region and its page number exist, where no page lies beyond the
address space. -/
theorem exists_addressOf_and_numberOf
    (htop : allocator.region.start.toNat + allocator.totalPages.toNat * 4096 ≤ 2 ^ 64)
    (hpage : allocator.containsPage page = true) :
    (∃ a, allocator.addressOf page = .ok a) ∧ ∃ num, allocator.numberOf page = .ok num := by
  rw [containsPage_iff] at hpage
  refine ⟨⟨(allocator.region.start.toNat + page.toNat * 4096).toUInt64, ?_⟩,
    ⟨(allocator.region.start.toNat / 4096 + page.toNat).toUInt64, ?_⟩⟩
  · rw [addressOf_eq_ok_iff, Word.toNat_toUInt64 (by omega)]
  · rw [numberOf_eq_ok_iff, Word.toNat_toUInt64 (by omega)]

/-! ## 2. Lookups and their inverses -/

/-- The lookups find what there is, and what they find is what was looked for. -/
structure Lookups (allocator : Allocator) : Prop where
  contains_iff : ∀ a, allocator.contains a = true ↔
    allocator.region.start.toNat ≤ a.toNat ∧
      a.toNat - allocator.region.start.toNat < allocator.region.size.toNat
  /-- There are pages at exactly the addresses of the region. -/
  isSome_pageOf_iff : ∀ a, (allocator.pageOf? a).isSome ↔ allocator.contains a = true
  /-- The page at an address begins where the address would be without its lower 12 bits. -/
  pageOf : ∀ a page, allocator.pageOf? a = some page →
    allocator.addressOf page = .ok (a &&& pageMask) ∧
      allocator.indexOf? a = some page.toUInt64
  isSome_pageNum_iff : ∀ num, (allocator.pageNum? num).isSome ↔
    allocator.firstPageNum.toNat ≤ num.toNat ∧
      num.toNat < allocator.firstPageNum.toNat + allocator.totalPages.toNat
  pageNum : ∀ num page, allocator.pageNum? num = some page →
    allocator.numberOf page = .ok num ∧
      ∃ a, allocator.addressOf page = .ok a ∧ a.toNat = num.toNat * 4096
  isSome_pageAt_iff : ∀ index, (allocator.pageAt? index).isSome ↔
    index.toNat < allocator.totalPages.toNat
  pageAt : ∀ index page, allocator.pageAt? index = some page → page.toNat = index.toNat
  /-- A page is found again by whatever it is asked for. -/
  found : ∀ page, allocator.containsPage page = true →
    (∃ a, allocator.addressOf page = .ok a ∧ allocator.pageOf? a = some page) ∧
      (∃ num, allocator.numberOf page = .ok num ∧ allocator.pageNum? num = some page) ∧
        allocator.pageAt? page.toUInt64 = some page
  /-- The page after a page is the one that begins 4096 bytes further on, if there is one. -/
  pageAfter_iff : ∀ page, allocator.containsPage page = true → ∀ next,
    allocator.pageAfter? page = some next ↔ allocator.containsPage next = true ∧
      ∃ a b, allocator.addressOf page = .ok a ∧ allocator.addressOf next = .ok b ∧
        b.toNat = a.toNat + 4096

/-- **A region that passes the checks of a setup** is one in which pages can be looked up. -/
theorem lookups_of_passes (h : firstFailure allocator.region.checks = none) :
    allocator.Lookups := by
  obtain ⟨hstart, hsize, -, hfits, hsmall⟩ := Region.passes_iff.mp h
  have htotal : allocator.totalPages.toNat = allocator.region.pages := Region.toNat_size_div _
  have htop : allocator.region.start.toNat + allocator.totalPages.toNat * 4096 ≤ 2 ^ 64 := by
    rw [htotal]
    exact hfits.start_add_pages_le
  have hfew : allocator.totalPages.toNat ≤ 2 ^ 32 := by omega
  have hpages : allocator.region.pages * 4096 = allocator.region.size.toNat := by
    rw [Region.pages]
    omega
  have hexists : ∀ page, allocator.containsPage page = true →
      (∃ a, allocator.addressOf page = .ok a) ∧ ∃ num, allocator.numberOf page = .ok num :=
    fun page => exists_addressOf_and_numberOf htop
  have hcontains : ∀ a, allocator.contains a = true ↔
      allocator.region.start.toNat ≤ a.toNat ∧
        a.toNat < allocator.region.start.toNat + allocator.region.size.toNat :=
    fun a => Region.contains_iff
  refine
    { contains_iff := ?_, isSome_pageOf_iff := ?_, pageOf := ?_, isSome_pageNum_iff := ?_,
      pageNum := ?_, isSome_pageAt_iff := ?_, pageAt := ?_, found := ?_, pageAfter_iff := ?_ }
  · intro a
    rw [hcontains]
    omega
  · intro a
    rw [hcontains, Option.isSome_iff_exists]
    simp only [pageOf_eq_some_iff hfew]
    rw [exists_page_iff hfew]
    omega
  · intro a page hpage
    have hindex : allocator.indexOf? a = some page.toUInt64 := by rw [indexOf?, hpage]; rfl
    rw [pageOf_eq_some_iff hfew] at hpage
    refine ⟨?_, hindex⟩
    rw [addressOf_eq_ok_iff, Addr.toNat_and_pageMask]
    omega
  · intro num
    rw [Option.isSome_iff_exists, toNat_firstPageNum]
    simp only [pageNum_eq_some_iff hfew]
    exact exists_page_iff hfew _ _
  · intro num page hpage
    rw [pageNum_eq_some_iff hfew] at hpage
    obtain ⟨⟨a, ha⟩, -⟩ := hexists page (containsPage_iff.mpr hpage.1)
    refine ⟨numberOf_eq_ok_iff.mpr hpage.2.symm, a, ha, ?_⟩
    rw [addressOf_eq_ok_iff] at ha
    omega
  · intro index
    rw [Option.isSome_iff_exists]
    simp only [pageAt_eq_some_iff hfew]
    simpa using exists_page_iff hfew 0 index.toNat
  · intro index page hpage
    exact ((pageAt_eq_some_iff hfew).mp hpage).2.symm
  · intro page hpage
    obtain ⟨⟨a, ha⟩, num, hnum⟩ := hexists page hpage
    rw [containsPage_iff] at hpage
    refine ⟨⟨a, ha, ?_⟩, ⟨num, hnum, ?_⟩, ?_⟩
    · rw [addressOf_eq_ok_iff] at ha
      rw [pageOf_eq_some_iff hfew]
      omega
    · rw [numberOf_eq_ok_iff] at hnum
      rw [pageNum_eq_some_iff hfew]
      omega
    · rw [pageAt_eq_some_iff hfew]
      exact ⟨hpage, UInt32.toNat_toUInt64 page⟩
  · intro page hpage next
    obtain ⟨⟨a, ha⟩, -⟩ := hexists page hpage
    rw [pageAfter_eq_some_iff hfew, containsPage_iff]
    constructor
    · rintro ⟨hnext, heq⟩
      obtain ⟨⟨b, hb⟩, -⟩ := hexists next (containsPage_iff.mpr hnext)
      refine ⟨hnext, a, b, ha, hb, ?_⟩
      rw [addressOf_eq_ok_iff] at ha hb
      omega
    · rintro ⟨hnext, a, b, ha, hb, hsum⟩
      rw [addressOf_eq_ok_iff] at ha hb
      omega

/-- **The lookups of an allocator that was set up** are total and the inverses of what a page is
asked for, at the time and after any requests.  The region has passed the checks of the setup, so
its pages have numbers and addresses that fit a word, up to the very top; and no request moves
it. -/
theorem SetUp.lookups_afterAll (h : allocator.SetUp) (requests : List Request) :
    (Request.afterAll allocator requests).Lookups := by
  obtain ⟨table, hstarted⟩ := h.exists_started
  refine lookups_of_passes ?_
  rw [Request.region_afterAll]
  exact hstarted.passes

theorem lookups_afterAll_threePages :
    threePages.SetUp ∧ (Request.afterAll threePages [.attempt 2 {}, .free 7]).Lookups :=
  ⟨setUp_threePages, setUp_threePages.lookups_afterAll _⟩

end PageFrames.Allocator
