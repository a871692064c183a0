import Dialogue.Path
import Mathlib.Data.List.Induction
import Mathlib.Data.List.TakeDrop
import Mathlib.Data.List.TakeWhile
/-!
# Texts of paths and locations

A text denotes the empty path exactly when it holds nothing but points, and names no position that
is too large for an index. The text of a path denotes the path again when no name in it looks like
more than a name, and a text is read from either side of a point on its own. The text of a location
denotes the location again, whatever the id of its page.

## Main definitions

- `Segment.Plain` — a segment whose text stands for itself

## Main statements

- `Path.parse_eq_nil_iff`, `Path.parse_append_point`
- `Path.position?_lt_of_mem_parse`
- `readIndex?_toString`, `Location.parse?_text`
- `Path.texts_correspond`
-/

namespace Dialogue

namespace Path

/-- A row of brackets with nothing open is empty when it holds no index. -/
theorem indices?_ne_nil {cs : List Char} {digits : List Char} {positions : List Nat}
    (h : indices? (some digits) cs = some positions) : positions ≠ [] := by
  induction cs generalizing digits with
  | nil => cases h
  | cons c rest ih =>
    rw [indices?] at h
    split at h
    · obtain ⟨i, -, h⟩ := Option.bind_eq_some_iff.1 h
      obtain ⟨others, -, h⟩ := Option.bind_eq_some_iff.1 h
      rw [← Option.some.inj h]
      exact List.cons_ne_nil i others
    · exact ih h

/-- A part between points names something unless it is empty. -/
theorem ofPart_eq_nil_iff {part : List Char} : ofPart part = [] ↔ part = [] := by
  constructor
  · intro h
    cases part with
    | nil => rfl
    | cons c rest =>
      unfold ofPart at h
      by_cases hc : c = '['
      · subst hc
        rw [List.dropWhile_cons_of_neg (by decide), indices?] at h
        dsimp only at h
        rw [if_pos rfl] at h
        split at h
        · next positions hpositions =>
          have hempty := (List.append_eq_nil_iff.1 h).2
          exact absurd (List.map_eq_nil_iff.1 hempty) (indices?_ne_nil hpositions)
        · cases h
      · rw [List.takeWhile_cons_of_pos (by simpa using hc)] at h
        split at h <;> simp at h
  · rintro rfl
    rfl

/-- A text has at least one part. -/
theorem splitPoints_ne_nil (cs : List Char) : splitPoints cs ≠ [] := by
  unfold splitPoints
  split
  · exact List.cons_ne_nil _ _
  · exact List.cons_ne_nil _ _
  · split
    · exact List.cons_ne_nil _ _
    · exact List.cons_ne_nil _ _

/-- A character that is no point belongs to the first part. -/
theorem splitPoints_cons {c : Char} (hc : c ≠ '.') {rest part : List Char} {parts : List (List Char)}
    (h : splitPoints rest = part :: parts) : splitPoints (c :: rest) = (c :: part) :: parts := by
  unfold splitPoints
  split
  · next heq => cases heq
  · next heq => exact absurd (List.cons.inj heq).1 hc
  · next heq =>
    obtain ⟨rfl, rfl⟩ := List.cons.inj heq
    rw [h]

/-- Only points leave nothing between them. -/
theorem splitPoints_eq_nil_iff {cs : List Char} :
    (∀ part ∈ splitPoints cs, part = []) ↔ ∀ c ∈ cs, c = '.' := by
  induction cs with
  | nil => simp [splitPoints]
  | cons c rest ih =>
    by_cases hc : c = '.'
    · subst hc
      simp [splitPoints, ih]
    · obtain ⟨part, parts, hsplit⟩ := List.exists_cons_of_ne_nil (splitPoints_ne_nil rest)
      simp [splitPoints_cons hc hsplit, hc]

/-- A text split at a point is split on both sides of it. -/
theorem splitPoints_append (front rest : List Char) :
    splitPoints (front ++ '.' :: rest) = splitPoints front ++ splitPoints rest := by
  induction front with
  | nil => rfl
  | cons c front ih =>
    by_cases hc : c = '.'
    · subst hc
      rw [List.cons_append, splitPoints, splitPoints, ih, List.cons_append]
    · obtain ⟨part, parts, hsplit⟩ := List.exists_cons_of_ne_nil (splitPoints_ne_nil front)
      rw [hsplit, List.cons_append] at ih
      rw [List.cons_append, splitPoints_cons hc ih, splitPoints_cons hc hsplit, List.cons_append]

theorem toList_append_point (front rest : String) :
    (front ++ "." ++ rest).toList = front.toList ++ '.' :: rest.toList := by
  rw [String.toList_append, String.toList_append, List.append_assoc]
  rfl

/-- **The path of two texts with a point between them is the path of the first, then that of the
second.** -/
theorem parse_append_point (front rest : String) :
    parse (front ++ "." ++ rest) = parse front ++ parse rest := by
  rw [parse, toList_append_point, splitPoints_append, List.flatMap_append, parse, parse]

/-- **A text denotes the empty path exactly when it holds nothing but points.** -/
theorem parse_eq_nil_iff {s : String} : parse s = [] ↔ ∀ c ∈ s.toList, c = '.' := by
  rw [parse, List.flatMap_eq_nil_iff, ← splitPoints_eq_nil_iff]
  simp only [ofPart_eq_nil_iff]

end Path

/-! ### Indices -/

theorem lt_of_readDigits? {cs : List Char} {n : Nat} (h : readDigits? cs = some n) :
    n < indexBound := by
  unfold readDigits? at h
  split at h
  · cases h
  · dsimp only at h
    split at h
    · next hlt =>
      rw [← Option.some.inj h]
      exact hlt
    · cases h

theorem lt_of_readIndex? {cs : List Char} {n : Nat} (h : readIndex? cs = some n) :
    n < indexBound := by
  unfold readIndex? at h
  split at h <;> exact lt_of_readDigits? h

namespace Path

theorem lt_of_mem_indices? {cs : List Char} {open? : Option (List Char)} {positions : List Nat}
    (h : indices? open? cs = some positions) : ∀ n ∈ positions, n < indexBound := by
  induction cs generalizing open? positions with
  | nil =>
    unfold indices? at h
    split at h
    · rw [← Option.some.inj h]
      exact nofun
    · cases h
  | cons c rest ih =>
    unfold indices? at h
    cases open? with
    | none =>
      dsimp only at h
      split at h
      · exact ih h
      · cases h
    | some digits =>
      dsimp only at h
      split at h
      · obtain ⟨i, hread, h⟩ := Option.bind_eq_some_iff.1 h
        obtain ⟨others, hrest, h⟩ := Option.bind_eq_some_iff.1 h
        rw [← Option.some.inj h, List.forall_mem_cons]
        exact ⟨lt_of_readIndex? hread, ih hrest⟩
      · exact ih h

/-- **Every position that a path can name is an index**, in brackets or as a name. -/
theorem position?_lt_of_mem_parse {path : String} {s : Segment} {position : Nat}
    (hs : s ∈ parse path) (hposition : s.position? = some position) : position < indexBound := by
  cases s with
  | key name => exact lt_of_readIndex? hposition
  | index n =>
    obtain rfl := Option.some.inj hposition
    obtain ⟨part, -, hs⟩ := List.mem_flatMap.1 hs
    unfold ofPart at hs
    split at hs
    · next positions hpositions =>
      rcases List.mem_append.1 hs with hname | hindex
      · split at hname <;> simp at hname
      · obtain ⟨i, hi, hsame⟩ := List.mem_map.1 hindex
        rw [← Segment.index.inj hsame]
        exact lt_of_mem_indices? hpositions i hi
    · simp at hs

end Path

/-! ### Indices as they are written -/

theorem toList_toString (n : Nat) : (toString n).toList = Nat.toDigits 10 n := Nat.toList_repr

theorem isDigit_of_mem_toString {n : Nat} {c : Char} (h : c ∈ (toString n).toList) :
    c.isDigit = true :=
  Nat.isDigit_of_mem_toDigits (by decide) (by decide) (toList_toString n ▸ h)

/-- **An index is read as it is written.** -/
theorem readIndex?_toString {n : Nat} (h : n < indexBound) :
    readIndex? (toString n).toList = some n := by
  have hall : ∀ c ∈ (toString n).toList, c.isDigit = true := fun c => isDigit_of_mem_toString
  rw [toList_toString] at hall ⊢
  have hvalue : (Nat.toDigits 10 n).foldl (fun n c => 10 * n + (c.toNat - '0'.toNat)) 0 = n :=
    Nat.ofDigitChars_toDigits (by decide) (by decide)
  have hread : readDigits? (Nat.toDigits 10 n) = some n := by
    have hne : (Nat.toDigits 10 n).isEmpty = false := List.isEmpty_eq_false_iff.2 Nat.toDigits_ne_nil
    have hgood : (Nat.toDigits 10 n).all Char.isDigit = true := List.all_eq_true.2 hall
    rw [readDigits?, if_neg (by simp [hne, hgood])]
    dsimp only
    rw [hvalue, if_pos h]
  unfold readIndex?
  split
  · next digits heq =>
    have hplus := hall '+' (heq ▸ List.mem_cons_self)
    exact absurd hplus (by decide)
  · exact hread

/-! ### Texts of paths -/

/-- A segment whose text stands for itself: a name that is not empty and holds neither a point nor
an opening bracket, or a position that is an index. -/
def Segment.Plain : Segment → Prop
  | .key name => name ≠ "" ∧ '.' ∉ name.toList ∧ '[' ∉ name.toList
  | .index position => position < indexBound

instance : DecidablePred Segment.Plain
  | .key name => inferInstanceAs (Decidable (name ≠ "" ∧ '.' ∉ name.toList ∧ '[' ∉ name.toList))
  | .index position => inferInstanceAs (Decidable (position < indexBound))

namespace Path

/-- A text without a point is one part. -/
theorem splitPoints_of_notMem {cs : List Char} (h : '.' ∉ cs) : splitPoints cs = [cs] := by
  induction cs with
  | nil => rfl
  | cons c rest ih =>
    rw [List.mem_cons, not_or] at h
    exact splitPoints_cons (Ne.symm h.1) (ih h.2)

/-- What follows without a point belongs to the last part. -/
theorem splitPoints_append_of_notMem {cs more part : List Char} {parts : List (List Char)}
    (h : '.' ∉ more) (hsplit : splitPoints cs = parts ++ [part]) :
    splitPoints (cs ++ more) = parts ++ [part ++ more] := by
  induction cs generalizing parts part with
  | nil =>
    obtain ⟨rfl, rfl⟩ := List.append_singleton_inj.1 (List.nil_append _ ▸ hsplit : [] ++ [[]] = _)
    exact splitPoints_of_notMem h
  | cons c rest ih =>
    -- The last part of the rest is the last part of the whole, but for `c` when it is the only one.
    obtain ⟨others, last, hrest⟩ : ∃ others last, splitPoints rest = others ++ [last] :=
      ⟨_, _, (List.dropLast_concat_getLast (splitPoints_ne_nil rest)).symm⟩
    have hmore := ih hrest
    by_cases hc : c = '.'
    · subst hc
      rw [splitPoints, hrest, ← List.cons_append] at hsplit
      obtain ⟨rfl, rfl⟩ := List.append_singleton_inj.1 hsplit
      rw [List.cons_append, splitPoints, hmore, List.cons_append]
    · cases others with
      | nil =>
        rw [splitPoints_cons hc hrest, ← List.nil_append [c :: last]] at hsplit
        obtain ⟨rfl, rfl⟩ := List.append_singleton_inj.1 hsplit
        exact splitPoints_cons hc hmore
      | cons first others =>
        rw [splitPoints_cons hc hrest, List.append_eq, ← List.cons_append] at hsplit
        obtain ⟨rfl, rfl⟩ := List.append_singleton_inj.1 hsplit
        exact splitPoints_cons hc hmore

/-- Rows of brackets one after the other are one row. -/
theorem indices?_append {cs : List Char} {open? : Option (List Char)} {positions : List Nat}
    (h : indices? open? cs = some positions) (more : List Char) :
    indices? open? (cs ++ more) = (indices? none more).map (positions ++ ·) := by
  induction cs generalizing open? positions with
  | nil =>
    cases open? with
    | none =>
      obtain rfl : [] = positions := Option.some.inj h
      simp
    | some digits => cases h
  | cons c rest ih =>
    cases open? with
    | none =>
      by_cases hc : c = '['
      · subst hc
        have hrest : indices? (some []) rest = some positions := h
        exact ih hrest
      · simp [indices?, hc] at h
    | some digits =>
      by_cases hc : c = ']'
      · simp only [List.cons_append, indices?, hc, if_true] at h ⊢
        obtain ⟨i, hread, h⟩ := Option.bind_eq_some_iff.1 h
        obtain ⟨others, hrest, h⟩ := Option.bind_eq_some_iff.1 h
        obtain rfl := Option.some.inj h
        rw [hread, ih hrest]
        cases indices? none more <;> rfl
      · simp only [List.cons_append, indices?, hc, if_false] at h ⊢
        exact ih h

/-- An open bracket is closed by the next closing one. -/
theorem indices?_close {digits : List Char} (h : ']' ∉ digits) (before : List Char) :
    indices? (some before) (digits ++ [']']) =
      (readIndex? (before.reverse ++ digits)).map ([·]) := by
  induction digits generalizing before with
  | nil =>
    rw [List.append_nil]
    cases hread : readIndex? before.reverse <;> simp [indices?, hread]
  | cons c rest ih =>
    rw [List.mem_cons, not_or] at h
    rw [List.cons_append, indices?]
    simp only [if_neg (Ne.symm h.1)]
    rw [ih h.2, List.reverse_cons, List.append_assoc, List.singleton_append]

/-- The text of an index. -/
def bracket (position : Nat) : List Char := '[' :: (toString position).toList ++ [']']

theorem indices?_bracket {position : Nat} (h : position < indexBound) :
    indices? none (bracket position) = some [position] := by
  have hclose : ']' ∉ (toString position).toList :=
    fun hmem => absurd (isDigit_of_mem_toString hmem) (by decide)
  have hread := indices?_close hclose []
  rw [List.reverse_nil, List.nil_append, readIndex?_toString h] at hread
  exact hread

/-- The brackets of a part are in order, so that an index may follow. -/
def Closed (part : List Char) : Prop := (indices? none (part.dropWhile (· != '['))).isSome

/-- One more index after a part whose brackets are in order. -/
theorem Closed.append_bracket {part : List Char} (hpart : Closed part) {position : Nat}
    (h : position < indexBound) :
    Closed (part ++ bracket position) ∧
      ofPart (part ++ bracket position) = ofPart part ++ [.index position] := by
  obtain ⟨positions, hpositions⟩ := Option.isSome_iff_exists.1 hpart
  -- The brackets begin where they did, or with this one when there was none.
  have hbrackets : (part ++ bracket position).dropWhile (· != '[') =
      part.dropWhile (· != '[') ++ bracket position := by
    rw [List.dropWhile_append]
    split
    · next hnone => rw [List.isEmpty_iff.1 hnone]; rfl
    · rfl
  have hname : (part ++ bracket position).takeWhile (· != '[') = part.takeWhile (· != '[') := by
    rw [List.takeWhile_append]
    split
    · next hnone => rw [(List.takeWhile_prefix _).eq_of_length hnone]; exact List.append_nil part
    · rfl
  have hall : indices? none ((part ++ bracket position).dropWhile (· != '[')) =
      some (positions ++ [position]) := by
    rw [hbrackets, indices?_append hpositions, indices?_bracket h]
    rfl
  refine ⟨by rw [Closed, hall]; rfl, ?_⟩
  simp only [ofPart, hall, hpositions, hname, List.map_append, List.map_cons, List.map_nil,
    List.append_assoc]

/-- The text of a segment after the text of a path. -/
theorem text_append_singleton (p : Path) (s : Segment) :
    text (p ++ [s]) = extendText (text p) s := by
  rw [text, List.foldl_append]
  rfl

/-- A plain name is one part. -/
theorem parse_name {name : String} (h : (Segment.key name).Plain) :
    splitPoints name.toList = [name.toList] ∧ Closed name.toList ∧
      parse name = [.key name] := by
  obtain ⟨hname, hpoint, hopen⟩ := h
  have hall : ∀ c ∈ name.toList, (c != '[') = true := by
    intro c hc
    rw [bne_iff_ne]
    rintro rfl
    exact hopen hc
  have hdrop : name.toList.dropWhile (· != '[') = [] := List.dropWhile_eq_nil_iff.2 hall
  have htake : name.toList.takeWhile (· != '[') = name.toList := List.takeWhile_eq_self_iff.2 hall
  have hne : name.toList.isEmpty = false := by
    rw [List.isEmpty_eq_false_iff]
    exact fun h => hname (String.toList_eq_nil_iff.1 h)
  have hsplit := splitPoints_of_notMem hpoint
  refine ⟨hsplit, by rw [Closed, hdrop]; rfl, ?_⟩
  rw [parse, hsplit, List.flatMap_singleton, ofPart, hdrop, htake]
  simp [indices?, hne]

/-- What the text of a path of plain segments denotes, with what carries over to the text of one
segment more: the brackets of its last part are in order. -/
theorem parse_text_and_closed {p : Path} (h : ∀ s ∈ p, s.Plain) :
    parse (text p) = p ∧
      ∃ parts part, splitPoints (text p).toList = parts ++ [part] ∧ Closed part := by
  induction p using List.reverseRecOn with
  | nil => exact ⟨rfl, [], [], rfl, rfl⟩
  | append_singleton p s ih =>
    obtain ⟨hparse, parts, part, hsplit, hclosed⟩ :=
      ih fun s hs => h s (List.mem_append_left _ hs)
    have hs : s.Plain := h s (by simp)
    rw [text_append_singleton]
    cases s with
    | key name =>
      obtain ⟨hname, hnameClosed, hread⟩ := parse_name hs
      by_cases hempty : (text p).isEmpty = true
      · -- A text that is empty denotes the empty path, so the name comes first.
        obtain rfl : p = [] := by
          rw [← hparse, String.isEmpty_iff.1 hempty]
          rfl
        exact ⟨hread, [], name.toList, hname, hnameClosed⟩
      · rw [extendText, if_neg hempty]
        refine ⟨by rw [parse_append_point, hparse, hread], parts ++ [part], name.toList, ?_,
          hnameClosed⟩
        rw [toList_append_point, splitPoints_append, hsplit, hname]
    | index position =>
      have htext : (extendText (text p) (.index position)).toList =
          (text p).toList ++ bracket position := by
        simp [extendText, bracket, String.toList_append]
      have hpoint : '.' ∉ bracket position := by
        simp only [bracket, List.cons_append, List.mem_cons, List.mem_append, not_or]
        exact ⟨by decide, fun hmem => absurd (isDigit_of_mem_toString hmem) (by decide), by decide,
          List.not_mem_nil⟩
      have hlonger := splitPoints_append_of_notMem hpoint hsplit
      obtain ⟨hnext, hread⟩ := hclosed.append_bracket hs
      refine ⟨?_, parts, part ++ bracket position, by rw [htext, hlonger], hnext⟩
      have hfront : parts.flatMap ofPart ++ ofPart part = p := by
        rw [← hparse, parse, hsplit, List.flatMap_append, List.flatMap_singleton]
      rw [parse, htext, hlonger, List.flatMap_append, List.flatMap_singleton, hread,
        ← List.append_assoc, hfront]

/-- **Paths and their texts correspond.** The text of a path of plain segments denotes the path. A
text with a point in it denotes what the text before it denotes, and then what the text after it
does; so reading it is reading the one, and the other in what was found there. -/
theorem texts_correspond :
    (∀ p : Path, (∀ s ∈ p, s.Plain) → parse (text p) = p) ∧
    (∀ front rest : String, parse (front ++ "." ++ rest) = parse front ++ parse rest) ∧
    ∀ (front rest : String) (root : Json),
      root.get? (parse (front ++ "." ++ rest)) =
        (root.get? (parse front)).bind (Json.get? (parse rest)) := by
  refine ⟨fun p h => (parse_text_and_closed h).1, parse_append_point, fun front rest root => ?_⟩
  rw [parse_append_point, Json.get?_append]

/-- A path that begins with an index, with two indices in a row and a name that holds a closing
bracket. -/
theorem texts_correspond_indexed :
    let p : Path := [.index 1, .key "0", .index 0, .index 12, .key "a]"]
    text p = "[1].0[0][12].a]" ∧ parse "[1].0[0][12].a]" = p := by
  intro p
  have htext : text p = "[1].0[0][12].a]" := by decide
  exact ⟨htext, htext ▸ texts_correspond.1 p (by decide)⟩

end Path

/-! ### Locations -/

/-- Digits are no white space. -/
theorem isWhite_of_isDigit {c : Char} (h : c.isDigit = true) : isWhite c = false := by
  have hbounds : 48 ≤ c.toNat ∧ c.toNat ≤ 57 := by
    rw [Char.isDigit, Bool.and_eq_true, decide_eq_true_eq, decide_eq_true_eq] at h
    exact ⟨UInt32.le_iff_toNat_le.1 h.1, UInt32.le_iff_toNat_le.1 h.2⟩
  simp [isWhite]
  omega

theorem trim_of_isDigit {cs : List Char} (h : ∀ c ∈ cs, c.isDigit = true) : trim cs = cs := by
  have hnone : ∀ cs : List Char, (∀ c ∈ cs, c.isDigit = true) → cs.dropWhile isWhite = cs := by
    intro cs hcs
    cases cs with
    | nil => rfl
    | cons c rest =>
      exact List.dropWhile_cons_of_neg (by simp [isWhite_of_isDigit (hcs c List.mem_cons_self)])
  rw [trim, hnone cs h, trimEnd, hnone _ fun c hc => h c (List.mem_reverse.1 hc), List.reverse_reverse]

/-- Splitting at the last occurrence of a character. -/
theorem splitLast?_append_cons {c : Char} {after : List Char} (h : c ∉ after) (before : List Char) :
    splitLast? c (before ++ c :: after) = some (before, after) := by
  have hafter : ∀ d ∈ after.reverse, (d != c) = true := by
    intro d hd
    rw [bne_iff_ne]
    rintro rfl
    exact h (List.mem_reverse.1 hd)
  have hreverse : (before ++ c :: after).reverse = after.reverse ++ c :: before.reverse := by simp
  rw [splitLast?, hreverse, List.span_eq_takeWhile_dropWhile,
    List.takeWhile_append_of_pos hafter, List.dropWhile_append_of_pos hafter,
    List.takeWhile_cons_of_neg (by simp), List.dropWhile_cons_of_neg (by simp)]
  simp

/-- The parts of a text that is split. -/
theorem eq_append_of_splitLast? {c : Char} {cs before after : List Char}
    (h : splitLast? c cs = some (before, after)) : cs = before ++ c :: after := by
  rw [splitLast?, List.span_eq_takeWhile_dropWhile] at h
  have hsplit : cs.reverse.takeWhile (· != c) ++ cs.reverse.dropWhile (· != c) = cs.reverse :=
    List.takeWhile_append_dropWhile
  cases hdrop : cs.reverse.dropWhile (· != c) with
  | nil => simp [hdrop] at h
  | cons d rest =>
    have hd : d = c := by
      have hhead := List.head?_dropWhile_not (· != c) cs.reverse
      rw [hdrop] at hhead
      simpa using hhead
    rw [hdrop] at h hsplit
    generalize cs.reverse.takeWhile (· != c) = front at h hsplit
    obtain ⟨rfl, rfl⟩ := Prod.mk.inj (Option.some.inj h)
    calc cs = (front ++ d :: rest).reverse := by rw [hsplit, List.reverse_reverse]
      _ = rest.reverse ++ c :: front.reverse := by simp [hd]

/-- A text with an index in its last brackets denotes the step of that index. -/
theorem Location.parse?_indexed {page : String} {inside : List Char} (hpage : page ≠ "")
    (hopen : '[' ∉ inside) :
    parse? (page ++ "[" ++ String.ofList inside ++ "]") =
      (readIndex? (trim inside)).map (⟨page, ·⟩) := by
  have htext : (page ++ "[" ++ String.ofList inside ++ "]").toList.reverse =
      ']' :: (page.toList ++ '[' :: inside).reverse := by
    simp [String.toList_append]
  have hne : page.toList.isEmpty = false := by
    rw [List.isEmpty_eq_false_iff]
    exact fun h => hpage (String.toList_eq_nil_iff.1 h)
  unfold parse?
  rw [htext]
  simp only [List.reverse_reverse]
  rw [splitLast?_append_cons hopen]
  simp only [hne, Bool.false_eq_true, if_false, String.ofList_toList]

/-- **The text of a location denotes the location**, whatever the id of its page. -/
theorem Location.parse?_text {l : Location} (hpage : l.page ≠ "") (hindex : l.index < indexBound) :
    parse? l.text = some l := by
  have hdigits : ∀ c ∈ (toString l.index).toList, c.isDigit = true :=
    fun c => isDigit_of_mem_toString
  -- The bracket before the index is the last one, since an index has none.
  have hopen : '[' ∉ (toString l.index).toList := fun h => absurd (hdigits '[' h) (by decide)
  have htext : l.text = l.page ++ "[" ++ String.ofList (toString l.index).toList ++ "]" := by
    rw [text, String.ofList_toList]
  rw [htext, parse?_indexed hpage hopen, trim_of_isDigit hdigits, readIndex?_toString hindex]
  rfl

/-- **The id of a page denotes its first step** unless it holds an opening bracket or ends in a
closing one. -/
theorem Location.parse?_eq_start_iff {s : String} :
    parse? s = some (start s) ↔ s ≠ "" ∧ '[' ∉ s.toList ∧ s.toList.getLast? ≠ some ']' := by
  have hlast : s.toList.reverse.head? = s.toList.getLast? := List.head?_reverse
  unfold parse?
  split
  · next body heq =>
    rw [heq, List.head?_cons] at hlast
    refine iff_of_false (fun h => ?_) (by simp [← hlast])
    -- The page that is read is shorter than the text.
    have hlength : s.toList.length = body.length + 1 := by
      rw [← List.length_reverse, heq, List.length_cons]
    split at h
    · next page index hsplit =>
      have hparts := congrArg List.length (eq_append_of_splitLast? hsplit)
      rw [List.length_reverse, List.length_append, List.length_cons] at hparts
      split at h
      · cases h
      · obtain ⟨i, -, hsame⟩ := Option.map_eq_some_iff.1 h
        have hpage := congrArg (·.page.toList.length) hsame
        simp only [start, String.toList_ofList] at hpage
        omega
    · cases h
  · next hbody =>
    have hne : s.toList.getLast? ≠ some ']' := by
      intro hclose
      obtain ⟨body, heq⟩ := List.head?_eq_some_iff.1 (hlast.trans hclose)
      exact hbody body heq
    simp [hne, String.toList_eq_nil_iff]

end Dialogue
