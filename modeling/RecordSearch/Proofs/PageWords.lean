import Mathlib.Data.UInt
import RecordSearch.Proofs.Plan
import RecordSearch.Settings

/-! Paging in words of 64 bits.

    Page numbers and sizes are signed words, bounds and positions unsigned ones. On words a clamp has
    a result only between bounds in order, and a difference only if it is not below zero; sums and
    products that do not fit become the largest word. Every step of a window has its result:

        clamp 1 100 maximum    the bounds are fixed
        clamp 1 top default    the maximum is at least 1
        clamp 1 top size       the same, and a maximum of at most 100 fits a signed word
        number - 1             the number is at least 1

    The words then stand for the numbers that the window has over the integers. Only the records to
    skip can exceed a word, and a list ends before their largest word, so no slice can tell. -/

namespace RecordSearch

/-! ### Arithmetic on words -/

namespace Words

/-- The nearest value to `n` from `low` to `high`; the bounds have to be in order. -/
def clamp? {α : Type} [LE α] [LT α] [DecidableLE α] [DecidableLT α] (low high n : α) : Option α :=
  if low ≤ high then some (if n < low then low else if high < n then high else n) else none

/-- The difference of two words, which must not fall below zero. -/
def sub? (a b : UInt64) : Option UInt64 := if b ≤ a then some (a - b) else none

/-- The word for a sum or product of words, or the largest word where it does not fit. -/
def saturated (n : Nat) : UInt64 := if n ≤ countLimit then .ofNat n else .ofNat countLimit

/-- The signed word for a number, or the largest one where it does not fit. -/
def toSigned (n : UInt64) : Int64 := if n.toNat < 2 ^ 63 then .ofNat n.toNat else .maxValue

/-- The distance of a signed word from zero. -/
def magnitude (n : Int64) : UInt64 := .ofNat n.toInt.natAbs

/-- Between bounds in order a clamp has a result, which stands for the clamped integer. -/
theorem exists_clamp? {α : Type} [LE α] [LT α] [DecidableLE α] [DecidableLT α] (value : α → Int)
    (le : ∀ a b, a ≤ b ↔ value a ≤ value b) (lt : ∀ a b, a < b ↔ value a < value b)
    {low high : α} (ordered : value low ≤ value high) (n : α) :
    ∃ c, clamp? low high n = some c ∧ value c = Pager.clamp (value low) (value high) (value n) := by
  refine ⟨_, if_pos ((le low high).2 ordered), ?_⟩
  rw [Pager.clamp]
  simp only [lt]
  split
  · omega
  · split
    · omega
    · omega

theorem exists_clamp?_unsigned (low high n : UInt64) (ordered : low.toNat ≤ high.toNat) :
    ∃ c, clamp? low high n = some c ∧ c.toNat = max low.toNat (min high.toNat n.toNat) := by
  obtain ⟨c, clamped, value⟩ := exists_clamp? (fun n : UInt64 => (n.toNat : Int))
    (fun a b => UInt64.le_iff_toNat_le.trans Int.ofNat_le.symm)
    (fun a b => UInt64.lt_iff_toNat_lt.trans Int.ofNat_lt.symm) (Int.ofNat_le.2 ordered) n
  refine ⟨c, clamped, ?_⟩
  rw [Pager.clamp] at value
  omega

theorem exists_clamp?_signed (low high n : Int64) (ordered : low.toInt ≤ high.toInt) :
    ∃ c, clamp? low high n = some c ∧ c.toInt = Pager.clamp low.toInt high.toInt n.toInt :=
  exists_clamp? Int64.toInt (fun _ _ => Int64.le_iff_toInt_le)
    (fun _ _ => Int64.lt_iff_toInt_lt) ordered n

theorem exists_sub? {a b : UInt64} (h : b.toNat ≤ a.toNat) :
    ∃ d, sub? a b = some d ∧ d.toNat = a.toNat - b.toNat := by
  have le := UInt64.le_iff_toNat_le.2 h
  exact ⟨a - b, if_pos le, UInt64.toNat_sub_of_le a b le⟩

theorem toNat_saturated (n : Nat) : (saturated n).toNat = min n countLimit := by
  rw [saturated]
  split
  case isTrue fits =>
    rw [UInt64.toNat_ofNat', Nat.min_eq_left fits]
    exact Nat.mod_eq_of_lt (Nat.lt_succ_of_le fits)
  case isFalse large => exact (Nat.min_eq_right (Nat.le_of_not_le large)).symm

theorem toInt_toSigned {n : UInt64} (h : n.toNat < 2 ^ 63) : (toSigned n).toInt = n.toNat := by
  rw [toSigned, if_pos h, Int64.toInt_ofNat_of_lt h]

theorem toNat_magnitude {n : Int64} (h : 0 ≤ n.toInt) : ((magnitude n).toNat : Int) = n.toInt := by
  have bound := n.toInt_lt
  rw [magnitude, UInt64.toNat_ofNat', Nat.mod_eq_of_lt (by omega)]
  omega

theorem toInt_max_one (n : Int64) : (max n 1).toInt = max 1 n.toInt := by
  show (if n ≤ 1 then (1 : Int64) else n).toInt = _
  have one : (1 : Int64).toInt = 1 := rfl
  simp only [Int64.le_iff_toInt_le, one]
  split
  · omega
  · omega

end Words

/-! ### Pagers and windows in words -/

open Words

/-- Bounds on page sizes, in words. -/
structure WordPager where
  defaultSize : UInt64
  maxSize : UInt64

/-- A page in words. -/
structure WordWindow where
  page : UInt64
  pageSize : UInt64
  skip : UInt64
  take : UInt64

/-- The window that the words stand for. -/
def WordWindow.value (w : WordWindow) : Window :=
  ⟨w.page.toNat, w.pageSize.toNat, w.skip.toNat, w.take.toNat⟩

/-- First and last position of the slice among `count` records. -/
def WordWindow.range (w : WordWindow) (count : UInt64) : UInt64 × UInt64 :=
  let start := min w.skip count
  (start, min (saturated (start.toNat + w.take.toNat)) count)

namespace WordPager

/-- Bounds from any two words. -/
def of? (default maximum : UInt64) : Option WordPager := do
  let top ← clamp? 1 (.ofNat maxPageSize) maximum
  let size ← clamp? 1 top default
  pure ⟨size, top⟩

/-- The window for a page and a size. -/
def window? (pager : WordPager) (page pageSize : Int64) : Option WordWindow := do
  let clampedSize ← clamp? 1 (toSigned pager.maxSize) pageSize
  let number := magnitude (max page 1)
  let size := magnitude clampedSize
  let before ← sub? number 1
  pure ⟨number, size, saturated (before.toNat * size.toNat), size⟩

/-- The window for a request that may leave out the page and the size. -/
def windowOrDefault? (pager : WordPager) (page pageSize : Option Int64) : Option WordWindow :=
  pager.window? (page.getD 1) (pageSize.getD (toSigned pager.defaultSize))

/-- The words are those of a pager. -/
structure Holds (words : WordPager) (pager : Pager) : Prop where
  defaultSize : words.defaultSize.toNat = pager.defaultSize
  maxSize : words.maxSize.toNat = pager.maxSize

/-- Any two words give bounds, which are those over the integers. -/
theorem exists_of? (default maximum : UInt64) :
    ∃ words, of? default maximum = some words ∧
      words.Holds (.of default.toNat maximum.toNat) := by
  obtain ⟨top, first, maxSize⟩ := exists_clamp?_unsigned 1 (.ofNat maxPageSize) maximum (by decide)
  have fixed : (UInt64.ofNat maxPageSize).toNat = maxPageSize := rfl
  have one : (1 : UInt64).toNat = 1 := rfl
  rw [fixed, one] at maxSize
  obtain ⟨size, second, defaultSize⟩ := exists_clamp?_unsigned 1 top default (by rw [one]; omega)
  refine ⟨⟨size, top⟩, ?_, ?_, maxSize⟩
  · rw [of?, first, Option.bind_eq_bind, Option.bind_some, second]
    rfl
  · show size.toNat = _
    rw [defaultSize, maxSize]
    rfl

end WordPager

/-- The slice of a window in words is that of the window over the integers. -/
theorem WordWindow.range_value (w : WordWindow) (count : UInt64) :
    ((w.range count).1.toNat, (w.range count).2.toNat) = w.value.range count.toNat := by
  simp only [range, Window.range, value, UInt64.toNat_min, toNat_saturated]

section

variable {words : WordPager} {pager : Pager} (holds : words.Holds pager)

include holds

/-- A window in words has its result, which stands for the window over the integers. -/
theorem WordPager.exists_window? (page pageSize : Int64) :
    ∃ w, words.window? page pageSize = some w ∧
      w.value = (pager.windowOrDefault (some page.toInt) (some pageSize.toInt)).value := by
  have bounds := pager.bounds
  rw [maxPageSize] at bounds
  have top : (toSigned words.maxSize).toInt = pager.maxSize := by
    rw [toInt_toSigned (by rw [holds.maxSize]; omega), holds.maxSize]
  have one : (1 : Int64).toInt = 1 := rfl
  obtain ⟨size, clamped, size_eq⟩ := exists_clamp?_signed 1 (toSigned words.maxSize) pageSize
    (by rw [top, one]; omega)
  rw [one, top] at size_eq
  have sizeWord : ((magnitude size).toNat : Int) = Pager.clamp 1 pager.maxSize pageSize.toInt := by
    rw [toNat_magnitude, size_eq]
    rw [size_eq, Pager.clamp]
    omega
  have numberWord : ((magnitude (max page 1)).toNat : Int) = max 1 page.toInt := by
    rw [toNat_magnitude, toInt_max_one]
    rw [toInt_max_one]
    omega
  have oneWord : (1 : UInt64).toNat = 1 := rfl
  obtain ⟨before, counted, before_eq⟩ := exists_sub?
    (show (1 : UInt64).toNat ≤ (magnitude (max page 1)).toNat by rw [oneWord]; omega)
  refine ⟨⟨magnitude (max page 1), magnitude size,
    saturated (before.toNat * (magnitude size).toNat), magnitude size⟩, ?_, ?_⟩
  · simp only [window?, clamped, counted, Option.bind_eq_bind, Option.bind_some, Option.pure_def]
  · rw [WordWindow.value, toNat_saturated, before_eq, oneWord, Pager.value_windowOrDefault]
    simp only [Option.getD_some, ← sizeWord, ← numberWord, Int.toNat_natCast]

/-- The same where the page or its size is left out. -/
theorem WordPager.exists_windowOrDefault? (page pageSize : Option Int64) :
    ∃ w, words.windowOrDefault? page pageSize = some w ∧
      w.value = (pager.windowOrDefault (page.map Int64.toInt) (pageSize.map Int64.toInt)).value := by
  have bounds := pager.bounds
  rw [maxPageSize] at bounds
  have standard : (toSigned words.defaultSize).toInt = pager.defaultSize := by
    rw [toInt_toSigned (by rw [holds.defaultSize]; omega), holds.defaultSize]
  obtain ⟨w, found, value⟩ := exists_window? holds (page.getD 1)
    (pageSize.getD (toSigned words.defaultSize))
  refine ⟨w, found, value.trans ?_⟩
  have asked : (pageSize.getD (toSigned words.defaultSize)).toInt =
      (pageSize.map Int64.toInt).getD pager.defaultSize := by
    cases pageSize with
    | none => exact standard
    | some size => rfl
  have numbered : (page.getD 1).toInt = (page.map Int64.toInt).getD 1 := by
    cases page with
    | none => rfl
    | some page => rfl
  rw [asked, numbered]
  rfl

end

/-! ### Windows over the integers -/

/-- The number of records on the pages before, whatever it is. -/
def Window.before (w : Window) : Int := ((w.page : Int) - 1) * (w.pageSize : Int)

/-- The window for a page and a size, either of which may be left out, in terms of integers without
    a limit. -/
structure Pager.Opens (pager : Pager) (page pageSize : Option Int) (w : Window) : Prop where
  page : (w.page : Int) = max 1 (page.getD 1)
  pageSize : (w.pageSize : Int) =
    max 1 (min (pager.maxSize : Int) (pageSize.getD (pager.defaultSize : Int)))
  take : w.take = w.pageSize
  skip : (w.skip : Int) = min w.before (2 ^ 64 - 1)
  /-- The cap on the records to skip shows in no slice. -/
  range : ∀ count : Nat, count < 2 ^ 64 →
    ((w.range count).1 : Int) = min w.before (count : Int) ∧
      ((w.range count).2 : Int) = min (w.before + (w.pageSize : Int)) (count : Int)

theorem Pager.opens_windowOrDefault (pager : Pager) (page pageSize : Option Int) :
    pager.Opens page pageSize (pager.windowOrDefault page pageSize).value := by
  rw [Pager.value_windowOrDefault]
  obtain ⟨number, number_eq⟩ : ∃ n : Nat, (max 1 (page.getD 1)).toNat = n + 1 :=
    ⟨(max 1 (page.getD 1)).toNat - 1, by omega⟩
  obtain ⟨size, size_eq⟩ :
      ∃ n, (clamp 1 pager.maxSize (pageSize.getD pager.defaultSize)).toNat = n := ⟨_, rfl⟩
  simp only [number_eq, size_eq, Nat.add_sub_cancel]
  rw [clamp] at size_eq
  have before (skip : Nat) : Window.before ⟨number + 1, size, skip, size⟩ = (number * size : Nat) := by
    rw [Window.before, Nat.cast_add, Nat.cast_one, Int.add_sub_cancel, Nat.cast_mul]
  refine ⟨?_, ?_, rfl, ?_, fun count counted => ?_⟩
  · show ((number + 1 : Nat) : Int) = _
    omega
  · show (size : Int) = _
    omega
  · simp only [before, countLimit]
    omega
  · simp only [before, Window.range, countLimit]
    omega

/-- Any two words, also when settings hold them, give bounds in words: a default of at least 1, a
    maximum that is no less, and no more than 100. With them every page and size, each there or left
    out, has its window in words: no clamp has crossed bounds, no difference falls below zero. The
    words stand for the window over the integers, and for its slice of any number of records. -/
theorem paging_in_words (default maximum : UInt64) (settings : Settings) :
    let pager := Pager.of default.toNat maximum.toNat
    { settings with
      defaultPageSize := default.toNat, maxPageSize := maximum.toNat : Settings }.pager = pager ∧
    ∃ words, WordPager.of? default maximum = some words ∧ words.Holds pager ∧
      (1 ≤ words.defaultSize.toNat ∧ words.defaultSize.toNat ≤ words.maxSize.toNat ∧
        words.maxSize.toNat ≤ 100) ∧
      ∀ page pageSize : Option Int64, ∃ w, words.windowOrDefault? page pageSize = some w ∧
        w.value = (pager.windowOrDefault (page.map Int64.toInt) (pageSize.map Int64.toInt)).value ∧
        pager.Opens (page.map Int64.toInt) (pageSize.map Int64.toInt) w.value ∧
        ∀ count : UInt64,
          ((w.range count).1.toNat, (w.range count).2.toNat) = w.value.range count.toNat := by
  intro pager
  obtain ⟨words, made, holds⟩ := WordPager.exists_of? default maximum
  refine ⟨rfl, words, made, holds, ?_, fun page pageSize => ?_⟩
  · rw [holds.defaultSize, holds.maxSize]
    exact pager.bounds
  · obtain ⟨w, found, value⟩ := WordPager.exists_windowOrDefault? holds page pageSize
    refine ⟨w, found, value, ?_, w.range_value⟩
    rw [value]
    exact pager.opens_windowOrDefault _ _

end RecordSearch
