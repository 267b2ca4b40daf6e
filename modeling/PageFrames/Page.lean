/-
# Page handles

An allocator numbers the pages of its region from zero, and a page is handled by that number:
its row in the allocator's table.  A handle is 32 bits wide and is only a number, so one that
was made up, or that came from another allocator, need not name a row at all.  One number never
does, since no table has that many rows: it stands for "no page" wherever a row records a
neighbour.
-/
import PageFrames.Text.Record

namespace PageFrames

/-- A handle to a page: the number of its row. -/
abbrev Page := UInt32

namespace Page

/-- The number that stands for "no page". -/
def nil : Page := 0xffffffff

/-- The diagnostic text of a handle. -/
def inspect (page : Page) : String := Text.variant "Page" (toString page.toNat)

end Page

end PageFrames
