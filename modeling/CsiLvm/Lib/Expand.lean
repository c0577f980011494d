/-
Module: CsiLvm.Lib.Expand
Purpose: Go's `os.Expand`, the scanner behind `resolveTemplate`: `getShellName` and the
  expansion loop, with the mapping given as a closure over explicit state (the provisioner's
  closure records missing keys). Over it, the grammar of well-formed templates (literal text
  and `${key}` tokens) and the expansion of a well-formed template piece by piece.
Trusted boundary: `os.Expand`, `getShellName`, `isShellSpecialVar` and `isAlphaNum` of the Go
  standard library (os/env.go), in the version that eats a malformed `${}` or `${` without
  calling the mapping and keeps a `$` that no name follows.
Main exports: getShellName, expand, expandTokens, TemplatePiece, renderTemplate,
  expandPieces, expand_renderTemplate, expand_congr, expand_calls_mapping_per_token
-/
import CsiLvm.Lib.Runtime

namespace CsiLvm.Os

/-- `isShellSpecialVar`: the character names a special shell variable such as `$*`. -/
def isShellSpecialVar (c : Char) : Bool :=
  ['*', '#', '$', '@', '!', '?', '-', '0', '1', '2', '3', '4', '5', '6', '7', '8', '9'].contains c

/-- `isAlphaNum`: an ASCII letter, an ASCII digit, or an underscore. -/
def isAlphaNum (c : Char) : Bool :=
  c == '_' || ('0' ≤ c && c ≤ '9') || ('a' ≤ c && c ≤ 'z') || ('A' ≤ c && c ≤ 'Z')

/-- The scan to the closing brace in `getShellName`, given the text after `{`: the name and
the number of characters consumed after `$`, `("", 2)` for `${}` and `("", 1)` for a `${`
that is never closed. -/
def getShellNameBraced (afterBrace : List Char) : List Char × Nat :=
  let name := afterBrace.takeWhile (· != '}')
  if name.length < afterBrace.length then
    if name.isEmpty then ([], 2) else (name, name.length + 2)
  else ([], 1)

/-- `getShellName s`: the name that begins `s` (the text after a `$`) and the number of
characters consumed to read it. `os.Expand` only calls it on non-empty text. -/
def getShellName : List Char → List Char × Nat
  | '{' :: afterBrace =>
      match afterBrace with
      | c :: '}' :: _ => if isShellSpecialVar c then ([c], 3) else getShellNameBraced afterBrace
      | _ => getShellNameBraced afterBrace
  | c :: rest =>
      if isShellSpecialVar c then ([c], 1)
      else
        let name := (c :: rest).takeWhile isAlphaNum
        (name, name.length)
  | [] => ([], 0)

private theorem length_takeWhile_le (p : Char → Bool) (l : List Char) :
    (l.takeWhile p).length ≤ l.length := by
  have := congrArg List.length (List.takeWhile_append_dropWhile p l)
  simp only [List.length_append] at this
  omega

theorem getShellNameBraced_width_le (afterBrace : List Char) :
    (getShellNameBraced afterBrace).2 ≤ afterBrace.length + 1 := by
  have := length_takeWhile_le (· != '}') afterBrace
  unfold getShellNameBraced
  dsimp only
  split
  · split <;> simp <;> omega
  · simp

theorem getShellName_width_le (s : List Char) : (getShellName s).2 ≤ s.length := by
  unfold getShellName
  split
  · rename_i afterBrace
    have := getShellNameBraced_width_le afterBrace
    split
    · split <;> simp_all
    · simpa using this
  · split
    · simp
    · simpa using length_takeWhile_le isAlphaNum _
  · simp

/-- `os.Expand(s, mapping)`: copy `s`, replacing each `${name}` or `$name` by what the
mapping returns for `name`. A `$` as the last character is kept; a `$` followed by no name is
kept; a malformed `${}` or an unclosed `${` is dropped without a call. The mapping is a
closure over the state `σ` it may update, which the calls thread from left to right. -/
def expand {σ : Type} (mapping : String → σ → String × σ) :
    List Char → σ → List Char × σ
  | [], state => ([], state)
  | ['$'], state => (['$'], state)
  | '$' :: c :: rest, state =>
      let scanned := getShellName (c :: rest)
      let replaced : List Char × σ :=
        if scanned.1.isEmpty then (if 0 < scanned.2 then [] else ['$'], state)
        else
          let value := mapping (String.mk scanned.1) state
          (value.1.data, value.2)
      let tail := expand mapping ((c :: rest).drop scanned.2) replaced.2
      (replaced.1 ++ tail.1, tail.2)
  | c :: rest, state =>
      let tail := expand mapping rest state
      (c :: tail.1, tail.2)
termination_by s => s.length
decreasing_by
  all_goals simp_wf
  have := getShellName_width_le (c :: rest)
  simp only [List.length_cons] at this ⊢
  omega

/-- The names `expand` passes to its mapping, in the order of the calls. -/
def expandTokens : List Char → List String
  | [] => []
  | ['$'] => []
  | '$' :: c :: rest =>
      let scanned := getShellName (c :: rest)
      (if scanned.1.isEmpty then [] else [String.mk scanned.1]) ++
        expandTokens ((c :: rest).drop scanned.2)
  | _ :: rest => expandTokens rest
termination_by s => s.length
decreasing_by
  all_goals simp_wf
  have := getShellName_width_le (c :: rest)
  simp only [List.length_cons] at this ⊢
  omega

/-! The scanner on a `${key}` token and on literal text. -/

theorem getShellNameBraced_token {key rest : List Char} (nonempty : key ≠ [])
    (unclosed : '}' ∉ key) :
    getShellNameBraced (key ++ '}' :: rest) = (key, key.length + 2) := by
  have taken : (key ++ '}' :: rest).takeWhile (· != '}') = key := by
    rw [List.takeWhile_append_of_pos]
    · simp
    · intro c member
      have : c ≠ '}' := fun closing => unclosed (closing ▸ member)
      simpa using this
  simp [getShellNameBraced, taken, nonempty]

theorem getShellName_token {key rest : List Char} (nonempty : key ≠ [])
    (unclosed : '}' ∉ key) :
    getShellName ('{' :: (key ++ '}' :: rest)) = (key, key.length + 2) := by
  simp only [getShellName]
  split
  · rename_i c tail shape
    have single : key = [c] := by
      match key, nonempty, shape with
      | [_], _, shape => simp_all
      | _ :: d :: _, _, shape =>
          simp only [List.cons_append, List.cons.injEq] at shape
          simp [shape.2.1] at unclosed
    split
    · simp [single]
    · exact getShellNameBraced_token nonempty unclosed
  · exact getShellNameBraced_token nonempty unclosed

theorem expand_cons_of_ne {σ : Type} (mapping : String → σ → String × σ) {c : Char}
    (rest : List Char) (state : σ) (plain : c ≠ '$') :
    expand mapping (c :: rest) state =
      (c :: (expand mapping rest state).1, (expand mapping rest state).2) :=
  expand.eq_4 mapping state c rest (fun dollar => absurd dollar plain)
    (fun _ _ dollar => absurd dollar plain)

theorem expand_literal {σ : Type} (mapping : String → σ → String × σ) {text : List Char}
    (noDollar : '$' ∉ text) (rest : List Char) (state : σ) :
    expand mapping (text ++ rest) state =
      (text ++ (expand mapping rest state).1, (expand mapping rest state).2) := by
  induction text with
  | nil => rfl
  | cons c text inductionHypothesis =>
      have plain : c ≠ '$' := fun dollar => noDollar (dollar ▸ List.mem_cons_self _ _)
      rw [List.cons_append, expand_cons_of_ne mapping _ state plain,
        inductionHypothesis (fun member => noDollar (List.mem_cons_of_mem _ member))]
      rfl

theorem expand_token {σ : Type} (mapping : String → σ → String × σ) {key : List Char}
    (nonempty : key ≠ []) (unclosed : '}' ∉ key) (rest : List Char) (state : σ) :
    expand mapping ('$' :: '{' :: (key ++ '}' :: rest)) state =
      ((mapping (String.mk key) state).1.data ++
          (expand mapping rest (mapping (String.mk key) state).2).1,
        (expand mapping rest (mapping (String.mk key) state).2).2) := by
  have dropped : ('{' :: (key ++ '}' :: rest)).drop (key.length + 2) = rest := by
    simp [List.drop_append_eq_append_drop]
  rw [expand.eq_3]
  simp [getShellName_token nonempty unclosed, nonempty, dropped]

/-- A malformed `${}` is dropped, and the mapping is not called. -/
theorem expand_empty_braces {σ : Type} (mapping : String → σ → String × σ)
    (rest : List Char) (state : σ) :
    expand mapping ('$' :: '{' :: '}' :: rest) state = expand mapping rest state := by
  have scanned : getShellName ('{' :: '}' :: rest) = ([], 2) := by
    simp only [getShellName]
    split
    · rename_i c _ shape
      obtain ⟨rfl, -⟩ := List.cons.inj shape
      simp [getShellNameBraced, isShellSpecialVar]
    · simp [getShellNameBraced]
  rw [expand.eq_3]
  simp [scanned]

/-- A `${` that is never closed is dropped, and the mapping is not called. -/
theorem expand_unclosed_brace {σ : Type} (mapping : String → σ → String × σ)
    {rest : List Char}
    (unclosed : '}' ∉ rest) (state : σ) :
    expand mapping ('$' :: '{' :: rest) state = expand mapping rest state := by
  have braced : getShellNameBraced rest = ([], 1) := by
    have whole : rest.takeWhile (· != '}') = rest :=
      List.takeWhile_eq_self_iff.mpr fun c member => by
        simpa using fun closing : c = '}' => unclosed (closing ▸ member)
    simp [getShellNameBraced, whole]
  have scanned : getShellName ('{' :: rest) = ([], 1) := by
    match rest, unclosed with
    | c :: '}' :: _, unclosed => simp at unclosed
    | [], _ => simpa [getShellName] using braced
    | [c], _ => simpa [getShellName] using braced
    | c :: d :: more, unclosed =>
        have notClosing : d ≠ '}' := fun closing => unclosed (by simp [closing])
        simpa [getShellName, notClosing] using braced
  rw [expand.eq_3]
  simp [scanned]

/-- `expand` reads its mapping only at the names it scans: two mappings that agree there
give the same text and the same final state. -/
theorem expand_congr {σ : Type} {first second : String → σ → String × σ} (s : List Char)
    (state : σ) (agree : ∀ key ∈ expandTokens s, first key = second key) :
    expand first s state = expand second s state := by
  induction s, state using expand.induct first with
  | case1 state => simp only [expand]
  | case2 state => simp only [expand]
  | case3 c rest state scanned replaced inductionHypothesis =>
      simp only [replaced, scanned] at inductionHypothesis
      rw [expandTokens.eq_3] at agree
      rw [expand.eq_3, expand.eq_3]
      by_cases blank : (getShellName (c :: rest)).1.isEmpty = true
      · simp only [blank, dite_true, if_true, List.nil_append] at inductionHypothesis agree ⊢
        rw [inductionHypothesis agree]
      · have same := agree (String.mk (getShellName (c :: rest)).1) (by simp [blank])
        simp only [blank, dite_false, if_false, Bool.false_eq_true, List.singleton_append,
          List.mem_cons] at inductionHypothesis agree ⊢
        rw [← same, inductionHypothesis (fun key member => agree key (.inr member))]
  | case4 c rest state notLast notToken inductionHypothesis =>
      rw [expandTokens.eq_4 c rest notLast notToken] at agree
      rw [expand.eq_4 first state c rest notLast notToken,
        expand.eq_4 second state c rest notLast notToken, inductionHypothesis agree]

/-! ### Well-formed templates

A template in the grammar the secret-reference parameters are written in: literal text and
`${key}` tokens. On it the scanner calls the mapping exactly once per token, in order. -/

/-- A piece of a well-formed template: literal text that holds no `$`, or a token `${key}`
whose key is non-empty and holds no `}`. -/
inductive TemplatePiece where
  | literal (text : List Char) (noDollar : '$' ∉ text)
  | token (key : List Char) (nonempty : key ≠ []) (unclosed : '}' ∉ key)

/-- The text of one piece. -/
def TemplatePiece.render : TemplatePiece → List Char
  | literal text _ => text
  | token key _ _ => '$' :: '{' :: (key ++ ['}'])

/-- The text of a template given as its pieces. -/
def renderTemplate : List TemplatePiece → List Char
  | [] => []
  | piece :: pieces => piece.render ++ renderTemplate pieces

/-- The keys of a template's tokens, left to right. -/
def templateKeys : List TemplatePiece → List String
  | [] => []
  | .literal .. :: pieces => templateKeys pieces
  | .token key .. :: pieces => String.mk key :: templateKeys pieces

/-- The expansion of a well-formed template piece by piece: literal text is copied, and the
mapping is called once for each token, from left to right. -/
def expandPieces {σ : Type} (mapping : String → σ → String × σ) :
    List TemplatePiece → σ → List Char × σ
  | [], state => ([], state)
  | .literal text _ :: pieces, state =>
      let tail := expandPieces mapping pieces state
      (text ++ tail.1, tail.2)
  | .token key .. :: pieces, state =>
      let value := mapping (String.mk key) state
      let tail := expandPieces mapping pieces value.2
      (value.1.data ++ tail.1, tail.2)

/-- `os.Expand` refines the piecewise expansion on every well-formed template. -/
theorem expand_renderTemplate {σ : Type} (mapping : String → σ → String × σ)
    (pieces : List TemplatePiece) (state : σ) :
    expand mapping (renderTemplate pieces) state = expandPieces mapping pieces state := by
  induction pieces generalizing state with
  | nil => simp only [renderTemplate, expandPieces, expand]
  | cons piece pieces inductionHypothesis =>
      cases piece with
      | literal text noDollar =>
          simp only [renderTemplate, TemplatePiece.render, expandPieces,
            expand_literal mapping noDollar, inductionHypothesis]
      | token key nonempty unclosed =>
          simp only [renderTemplate, TemplatePiece.render, expandPieces, List.cons_append,
            List.append_assoc, List.singleton_append, expand_token mapping nonempty unclosed,
            List.nil_append, inductionHypothesis]

/-- On a well-formed template, `os.Expand` calls its mapping once for each token, from left
to right, with that token's key: the state the calls thread is the mapping's updates folded
over the template's keys, and nothing else updates it. -/
theorem expand_calls_mapping_per_token {σ : Type} (mapping : String → σ → String × σ)
    (pieces : List TemplatePiece) (state : σ) :
    (expand mapping (renderTemplate pieces) state).2 =
      (templateKeys pieces).foldl (fun state key => (mapping key state).2) state := by
  rw [expand_renderTemplate]
  induction pieces generalizing state with
  | nil => rfl
  | cons piece pieces inductionHypothesis =>
      cases piece with
      | literal => simp only [expandPieces, templateKeys, inductionHypothesis]
      | token key => simp only [expandPieces, templateKeys, List.foldl_cons, inductionHypothesis]

end CsiLvm.Os
