import GroundedAnswers.Chunking.Scan
import GroundedAnswers.Proofs.Chunking.Chunks
import Mathlib.Order.Interval.Finset.Nat
import Mathlib.Order.Bounds.Basic

namespace GroundedAnswers

open Text

/-! Where windows lie. The windows of a text start one stride after the other, the last one is the
first that reaches the end, and a loop over positions of 64 bits finds them without a fault. -/

/-! ## Windows by their number -/

section

variable {size stride length number last : Nat}

def windowSpan (size stride length number : Nat) : Finset Nat :=
  Finset.Ico (number * stride) (min (number * stride + size) length)

def windowAt (size stride : Nat) (items : List α) (number : Nat) : List α :=
  items.extract (number * stride) (min (number * stride + size) items.length)

abbrev IsLastWindow (size stride length last : Nat) : Prop :=
  IsLeast {number | length ≤ number * stride + size} last

private theorem exists_isLastWindow (size : Nat) (advances : 0 < stride) (length : Nat) :
    ∃ last, IsLastWindow size stride length last := by
  have reaches : ∃ number, length ≤ number * stride + size :=
    ⟨length, Nat.le_add_right_of_le (Nat.le_mul_of_pos_right length advances)⟩
  exact ⟨Nat.find reaches, Nat.find_spec reaches, fun _ => Nat.find_min' reaches⟩

namespace IsLastWindow

variable (isLast : IsLastWindow size stride length last)

include isLast

private theorem inside_of_lt (before : number < last) : number * stride + size < length :=
  Nat.lt_of_not_le fun reaches => Nat.not_le_of_lt before (isLast.2 reaches)

private theorem behind_first (longer : size < length) :
    ∃ others, last = others + 1 ∧ IsLastWindow size stride (length - stride) others := by
  cases last with
  | zero =>
      have reaches : length ≤ 0 * stride + size := isLast.1
      omega
  | succ others =>
      have shift (number : Nat) : (number + 1) * stride = number * stride + stride :=
        Nat.succ_mul number stride
      refine ⟨others, rfl, ?_, fun number reaches => ?_⟩
      · have reaches : length ≤ (others + 1) * stride + size := isLast.1
        rw [shift] at reaches
        change length - stride ≤ others * stride + size
        omega
      · have reaches : length - stride ≤ number * stride + size := reaches
        refine Nat.le_of_succ_le_succ (isLast.2 ?_)
        change length ≤ (number + 1) * stride + size
        rw [shift]
        omega

end IsLastWindow

private theorem windowAt_drop (size stride : Nat) (items : List α) (number : Nat) :
    windowAt size stride (items.drop stride) number = windowAt size stride items (number + 1) := by
  have shift : (number + 1) * stride = number * stride + stride := Nat.succ_mul number stride
  unfold windowAt
  rw [List.extract_eq_take_drop, List.extract_eq_take_drop, List.drop_drop, List.length_drop,
    shift, Nat.add_comm stride]
  congr 1
  omega

/-- Windows that do not lie further apart than they are long are one for each number up to the
last. -/
theorem windows_eq_map_range {advances : 0 < stride} (close : stride ≤ size) {items : List α}
    (nonempty : items ≠ []) (isLast : IsLastWindow size stride items.length last) :
    windows size stride advances items =
      (List.range (last + 1)).map (windowAt size stride items) := by
  fun_induction windows size stride advances items generalizing last with
  | case1 items empty => exact absurd (List.length_eq_zero_iff.mp empty) nonempty
  | case2 items _ short =>
      have first : last = 0 := by
        apply Nat.le_zero.mp
        apply isLast.2
        change items.length ≤ 0 * stride + size
        omega
      rw [first, List.range_one, List.map_singleton, windowAt, List.extract_eq_take_drop]
      simp [short]
  | case3 items _ long induction =>
      rcases isLast.behind_first (by omega) with ⟨others, rfl, behind⟩
      have left : items.drop stride ≠ [] := by
        apply List.ne_nil_of_length_pos
        rw [List.length_drop]
        omega
      have first : items.take size = windowAt size stride items 0 := by
        rw [windowAt, List.extract_eq_take_drop, Nat.zero_mul, Nat.zero_add,
          Nat.min_eq_left (by omega), Nat.sub_zero, List.drop_zero]
      have numbers : List.range (others + 1 + 1) = 0 :: (List.range (others + 1)).map (· + 1) :=
        List.range_succ_eq_map
      rw [← List.length_drop] at behind
      rw [induction left behind, numbers, List.map_cons, List.map_map, first]
      congr 1
      exact List.map_congr_left fun number _ => windowAt_drop size stride items number

/-! ### Lengths and overlaps -/

private theorem flatten_windows_of_eq (advances : 0 < stride) (same : stride = size)
    (items : List α) :
    (windows size stride advances items).flatten = items := by
  subst same
  exact flatten_batches stride advances items

private theorem length_windowAt_of_lt {items : List α}
    (isLast : IsLastWindow size stride items.length last) (before : number < last) :
    (windowAt size stride items number).length = size := by
  have inside := isLast.inside_of_lt before
  rw [windowAt, List.extract_eq_take_drop, List.length_take, List.length_drop]
  omega

private theorem drop_windowAt_eq_take (close : stride ≤ size) {items : List α}
    (isLast : IsLastWindow size stride items.length last) (before : number < last) :
    (windowAt size stride items number).drop stride =
      (windowAt size stride items (number + 1)).take (size - stride) := by
  have inside := isLast.inside_of_lt before
  have shift : (number + 1) * stride = number * stride + stride := Nat.succ_mul number stride
  rw [windowAt, windowAt, List.extract_eq_take_drop, List.extract_eq_take_drop, shift,
    List.drop_take, List.drop_drop, List.take_take]
  congr 1
  omega

private theorem card_windowSpan_inter (close : stride ≤ size)
    (isLast : IsLastWindow size stride length last) (before : number < last) :
    (windowSpan size stride length number ∩ windowSpan size stride length (number + 1)).card =
      size - stride := by
  have inside := isLast.inside_of_lt before
  have shift : (number + 1) * stride = number * stride + stride := Nat.succ_mul number stride
  rw [windowSpan, windowSpan, Finset.Ico_inter_Ico, Nat.card_Ico, shift]
  omega

private theorem exists_mem_windowSpan (close : stride ≤ size) (advances : 0 < stride)
    (isLast : IsLastWindow size stride length last) {position : Nat} (inside : position < length) :
    ∃ number ≤ last, position ∈ windowSpan size stride length number := by
  have division : position / stride * stride + position % stride = position :=
    Nat.div_add_mod' position stride
  have remainder := Nat.mod_lt position advances
  have reaches : length ≤ last * stride + size := isLast.1
  rcases Nat.le_total (position / stride) last with early | late
  · refine ⟨position / stride, early, Finset.mem_Ico.mpr ⟨?_, ?_⟩⟩ <;> omega
  · have starts : last * stride ≤ position / stride * stride := Nat.mul_le_mul_right stride late
    refine ⟨last, Nat.le_refl last, Finset.mem_Ico.mpr ⟨?_, ?_⟩⟩ <;> omega

end

/-! ## The loop over positions -/

namespace Chunking

section

variable {size stride start : UInt64} {items : List α} (inMemory : items.length < 2 ^ 63)

private theorem Position.add_of_fits {left right : UInt64}
    (fits : left.toNat + right.toNat < UInt64.size) : add left right = .ok (left + right) :=
  if_pos fits

private theorem toNat_min (left right : UInt64) :
    (min left right).toNat = min left.toNat right.toNat := by
  change (if left ≤ right then left else right).toNat = min left.toNat right.toNat
  split
  · rename_i ordered
    exact (Nat.min_eq_left (UInt64.le_iff_toNat_le.mp ordered)).symm
  · rename_i unordered
    rw [UInt64.le_iff_toNat_le] at unordered
    omega

private theorem Position.exists_stride (size overlap : UInt64) :
    ∃ stride, Position.stride size overlap = .ok stride ∧
      stride.toNat = Chunking.stride size.toNat overlap.toNat := by
  unfold Chunking.stride
  by_cases wide : size ≤ overlap
  · exact ⟨size, if_pos wide, (if_pos (UInt64.le_iff_toNat_le.mp wide)).symm⟩
  · have narrow : overlap ≤ size := UInt64.le_of_lt (UInt64.not_le.mp wide)
    refine ⟨size - overlap, (if_neg wide).trans (if_pos narrow), ?_⟩
    rw [UInt64.toNat_sub_of_le _ _ narrow]
    exact (if_neg fun le => wide (UInt64.le_iff_toNat_le.mpr le)).symm

private theorem toNat_add_of_fits {left right : UInt64}
    (fits : left.toNat + right.toNat < UInt64.size) :
    (left + right).toNat = left.toNat + right.toNat := by
  rw [UInt64.toNat_add]
  exact Nat.mod_eq_of_lt fits

include inMemory

private theorem scan_succ (inside : start.toNat < items.length)
    (fits : start.toNat + size.toNat < UInt64.size) (rounds : Nat) :
    scan size stride items (rounds + 1) start =
      if items.length ≤ start.toNat + size.toNat then .ok (some [items.drop start.toNat])
      else do
        let others ← scan size stride items rounds (← Position.add start stride)
        return others.map ((items.drop start.toNat).take size.toNat :: ·) := by
  let stop := min (start + size) items.length.toUInt64
  have stopsAt : stop.toNat = min (start.toNat + size.toNat) items.length := by
    have whole : items.length.toUInt64.toNat = items.length :=
      UInt64.toNat_ofNat_of_lt' (by rw [UInt64.size]; omega)
    rw [toNat_min, toNat_add_of_fits fits, whole]
  have window : Position.slice items start stop = .ok ((items.drop start.toNat).take size.toNat) := by
    have ordered : start ≤ stop := by
      rw [UInt64.le_iff_toNat_le, stopsAt]
      omega
    rw [Position.slice, if_pos ⟨ordered, by omega⟩, List.extract_eq_take_drop,
      List.take_eq_take_iff.mpr]
    rw [stopsAt, List.length_drop]
    omega
  rw [scan, if_pos inside, Position.add_of_fits fits]
  change (do
    let window ← Position.slice items start stop
    if stop.toNat = items.length then return some [window]
    else
      let others ← scan size stride items rounds (← Position.add start stride)
      return others.map (window :: ·)) = _
  rw [window, stopsAt]
  by_cases reaches : items.length ≤ start.toNat + size.toNat
  · have short : (items.drop start.toNat).length ≤ size.toNat := by
      rw [List.length_drop]
      omega
    rw [if_pos reaches, List.take_of_length_le short]
    exact if_pos (Nat.min_eq_right reaches)
  · rw [if_neg reaches]
    exact if_neg (by omega)

private theorem scan_of_reaches (advances : 0 < stride.toNat)
    (fits : start.toNat + size.toNat < UInt64.size)
    (reaches : items.length ≤ start.toNat + size.toNat) (rounds : Nat) :
    scan size stride items (rounds + 1) start =
      .ok (some (windows size.toNat stride.toNat advances (items.drop start.toNat))) := by
  have left := List.length_drop (i := start.toNat) (l := items)
  by_cases inside : start.toNat < items.length
  · rw [scan_succ inMemory inside fits, if_pos reaches, windows, if_neg (by omega),
      if_pos (by omega)]
  · rw [scan, if_neg inside, windows, if_pos (by omega)]
    rfl

/-- Enough rounds find the windows of all that is left, without a fault. Once a window has not
reached the end, the size is below the count of items, and no later sum is too large. -/
theorem scan_eq_windows (advances : 0 < stride.toNat) (close : stride.toNat ≤ size.toNat)
    (start : UInt64) (fits : start.toNat + size.toNat < UInt64.size) {rounds : Nat}
    (enough : items.length ≤ start.toNat + (rounds * stride.toNat + size.toNat)) :
    scan size stride items (rounds + 1) start =
      .ok (some (windows size.toNat stride.toNat advances (items.drop start.toNat))) := by
  induction rounds generalizing start with
  | zero =>
      apply scan_of_reaches inMemory advances fits
      omega
  | succ rounds induction =>
      by_cases reaches : items.length ≤ start.toNat + size.toNat
      · exact scan_of_reaches inMemory advances fits reaches (rounds + 1)
      · have left := List.length_drop (i := start.toNat) (l := items)
        have shift : (rounds + 1) * stride.toNat = rounds * stride.toNat + stride.toNat :=
          Nat.succ_mul rounds stride.toNat
        have room : start.toNat + stride.toNat < UInt64.size := by omega
        have next := toNat_add_of_fits room
        have others := induction (start + stride) (by rw [next, UInt64.size]; omega)
          (by rw [next]; omega)
        rw [scan_succ inMemory (by omega) fits, if_neg reaches, Position.add_of_fits room, windows,
          if_neg (by omega), if_neg (by omega), List.drop_drop, ← next]
        change (do
          let others ← scan size stride items (rounds + 1) (start + stride)
          return others.map ((items.drop start.toNat).take size.toNat :: ·)) = _
        rw [others]
        rfl

private theorem scanFixed_eq_windows (options : ChunkOptions) {last : Nat}
    (isLast : IsLastWindow options.effectiveSize
      (Chunking.stride options.effectiveSize options.overlap.toNat) items.length last)
    {rounds : Nat} (enough : last < rounds) :
    scanFixed options items rounds =
      .ok (some (windows options.effectiveSize
        (Chunking.stride options.effectiveSize options.overlap.toNat)
        (stride_pos options.effectiveSize_pos options.overlap.toNat) items)) := by
  let size := if options.size = 0 then ChunkOptions.standard.size else options.size
  have sizeIs : size.toNat = options.effectiveSize := apply_ite UInt64.toNat _ _ _
  rcases Position.exists_stride size options.overlap with ⟨stride, found, strideIs⟩
  rw [sizeIs] at strideIs
  have advances : 0 < stride.toNat := strideIs ▸ stride_pos options.effectiveSize_pos _
  have close : stride.toNat ≤ size.toNat := by
    rw [strideIs, sizeIs]
    exact stride_le _ _
  have reaches : items.length ≤ last * stride.toNat + size.toNat := by
    rw [strideIs, sizeIs]
    exact isLast.1
  cases rounds with
  | zero => exact absurd enough (Nat.not_lt_zero last)
  | succ rounds =>
      have further : last * stride.toNat ≤ rounds * stride.toNat :=
        Nat.mul_le_mul_right _ (Nat.le_of_lt_succ enough)
      have fits : (0 : UInt64).toNat + size.toNat < UInt64.size := by
        rw [UInt64.toNat_zero, Nat.zero_add]
        exact size.toNat_lt
      have within : items.length ≤
          (0 : UInt64).toNat + (rounds * stride.toNat + size.toNat) := by
        rw [UInt64.toNat_zero]
        omega
      have scanned := scan_eq_windows inMemory advances close 0 fits within
      change (do scan size (← Position.stride size options.overlap) items (rounds + 1) 0) = _
      rw [found]
      change scan size stride items (rounds + 1) 0 = _
      rw [scanned]
      congr

end

end Chunking

/-! ## Chunks of the fixed strategy -/

/-- The chunks of the fixed strategy are the windows that are not blank. A loop over positions
finds the windows without a fault: no text in memory takes `2 ^ 63` bytes or more. -/
theorem chunkText_fixed_windows (size overlap : UInt64) (text : String) :
    let limit := if size = 0 then 1000 else size.toNat
    let step := if overlap.toNat < limit then limit - overlap.toNat else limit
    let window := windowAt limit step text.toList
    let span := windowSpan limit step text.length
    ∃ last, IsLeast {number | text.length ≤ number * step + limit} last ∧
      let all := if text = "" then [] else (List.range (last + 1)).map window
      (text.length < 2 ^ 63 → ∀ rounds > last,
        Chunking.scanFixed ⟨size, overlap, .fixed⟩ text.toList rounds = .ok (some all)) ∧
      ((chunkText ⟨size, overlap, .fixed⟩ text).map fun chunk => chunk.content.toList) =
        all.filter (fun characters => !characters.all isBlank) ∧
      (∀ number < last, (window number).length = limit) ∧
      (overlap.toNat < limit → ∀ number < last,
        (span number ∩ span (number + 1)).card = overlap.toNat ∧
        (window number).drop step = (window (number + 1)).take overlap.toNat) ∧
      (∀ position < text.length, ∃ number ≤ last, position ∈ span number) ∧
      (overlap = 0 → all.flatten = text.toList) := by
  intro limit step window span
  let options : ChunkOptions := ⟨size, overlap, .fixed⟩
  have limitIs : limit = options.effectiveSize := rfl
  have stepIs : step = Chunking.stride options.effectiveSize overlap.toNat := by
    rw [Chunking.stride, ← limitIs]
    simp only [step]
    split <;> split <;> omega
  have advances : 0 < step := stepIs ▸ Chunking.stride_pos options.effectiveSize_pos _
  have close : step ≤ limit := stepIs ▸ Chunking.stride_le options.effectiveSize _
  rcases exists_isLastWindow limit advances text.length with ⟨last, isLast⟩
  have ofCharacters : IsLastWindow limit step text.toList.length last := by
    rw [String.length_toList]
    exact isLast
  have piecesAre : Chunking.pieces options text.toList =
      windows limit step advances text.toList := by
    change windows limit (Chunking.stride limit overlap.toNat) _ text.toList = _
    congr 1
    exact stepIs.symm
  have allIs : (if text = "" then [] else (List.range (last + 1)).map window) =
      Chunking.pieces options text.toList := by
    rw [piecesAre]
    by_cases empty : text = ""
    · rw [if_pos empty, windows, if_pos (by rw [empty]; rfl)]
    · have nonempty : text.toList ≠ [] := fun nothing => empty (String.toList_eq_nil_iff.mp nothing)
      rw [if_neg empty, windows_eq_map_range close nonempty ofCharacters]
  refine ⟨last, isLast, ?_⟩
  intro all
  refine ⟨?_, ?_, ?_, ?_, ?_, ?_⟩
  · intro inMemory rounds enough
    rw [← String.length_toList] at inMemory
    rw [limitIs, stepIs] at ofCharacters
    have scanned := Chunking.scanFixed_eq_windows inMemory options ofCharacters enough
    exact scanned.trans (congrArg (Except.ok ∘ some) allIs.symm)
  · exact (map_content_chunkText options text).trans
      (congrArg (List.filter fun characters : List Char => !characters.all isBlank) allIs.symm)
  · exact fun number before => length_windowAt_of_lt ofCharacters before
  · intro narrow number before
    have shared : limit - step = overlap.toNat := by
      simp only [step, if_pos narrow]
      omega
    rw [← shared]
    exact ⟨card_windowSpan_inter close isLast before,
      drop_windowAt_eq_take close ofCharacters before⟩
  · exact fun position inside => exists_mem_windowSpan close advances isLast inside
  · intro none
    have same : step = limit := by
      simp only [step, none, UInt64.toNat_zero, Nat.sub_zero]
      split <;> rfl
    have whole := flatten_windows_of_eq advances same text.toList
    rw [← piecesAre, ← allIs] at whole
    exact whole

/-- Windows that overlap, one of them blank, and windows as wide as a word allows. -/
theorem chunkText_fixed_windows_overlapping :
    let text := "Añb     cd"
    let widest : UInt64 := 0xFFFFFFFFFFFFFFFF
    text.length < 2 ^ 63 ∧
    Chunking.scanFixed ⟨4, 2, .fixed⟩ text.toList 4 =
      .ok (some ["Añb ".toList, "b   ".toList, "    ".toList, "  cd".toList]) ∧
    (chunkText ⟨4, 2, .fixed⟩ text).map TextChunk.content = ["Añb ", "b   ", "  cd"] ∧
    (windowSpan 4 2 10 2 ∩ windowSpan 4 2 10 3).card = 2 ∧
    Chunking.scanFixed ⟨widest, widest - 1, .fixed⟩ text.toList 1 = .ok (some [text.toList]) := by
  intro text widest
  have inMemory : text.length < 2 ^ 63 := by decide
  have narrow := chunkText_fixed_windows 4 2 text
  have wide := chunkText_fixed_windows widest (widest - 1) text
  have limit : (if (4 : UInt64) = 0 then 1000 else (4 : UInt64).toNat) = 4 := by decide
  have step : (if (2 : UInt64).toNat < 4 then 4 - (2 : UInt64).toNat else 4) = 2 := by decide
  have limitWide : (if widest = 0 then 1000 else widest.toNat) = 2 ^ 64 - 1 := by decide
  have stepWide : (if (widest - 1).toNat < 2 ^ 64 - 1 then 2 ^ 64 - 1 - (widest - 1).toNat
      else 2 ^ 64 - 1) = 1 := by
    decide
  have length : text.length = 10 := by decide
  simp only [limit, step, length] at narrow
  simp only [limitWide, stepWide, length] at wide
  rcases narrow with ⟨last, isLast, found, -, -, shared, -⟩
  rcases wide with ⟨lastWide, isLastWide, foundWide, -⟩
  have three : last = 3 := by
    have reaches : 10 ≤ last * 2 + 4 := isLast.1
    have least : last ≤ 3 := isLast.2 (show 10 ≤ 3 * 2 + 4 by decide)
    omega
  have none : lastWide = 0 :=
    Nat.le_zero.mp (isLastWide.2 (show 10 ≤ 0 * 1 + (2 ^ 64 - 1) by decide))
  subst three
  subst none
  refine ⟨inMemory, (found (by decide) 4 (by decide)).trans ?_, by decide +kernel,
    (shared (by decide) 2 (by decide)).1, (foundWide (by decide) 1 (by decide)).trans ?_⟩
  · exact congrArg (Except.ok ∘ some) (by decide +kernel)
  · exact congrArg (Except.ok ∘ some) (by decide +kernel)

end GroundedAnswers
