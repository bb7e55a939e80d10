/-!
**The patterns of ignore files.**

A pattern is read as a sequence of pieces and matched against the bytes of a path. A star and a
question mark stay within one component of the path; two stars between slashes cross components.

* `Glob.parse?`: a pattern as pieces;
* `Glob.Piece.rests`, `Glob.rests`: what can be left of a path behind a piece, or a sequence;
* `Glob.accepts`: whether a pattern matches a whole path.
-/

namespace MessageRefs.Ignore

namespace Glob

/-- A piece of a pattern. -/
inductive Piece where
  /-- One character. -/
  | literal (c : Char)
  /-- Any byte but a slash. -/
  | any
  /-- Any run of bytes without a slash. -/
  | many
  /-- Any leading components, or none. -/
  | leading
  /-- A slash and any components behind it. -/
  | trailing
  /-- A slash, or any components between two slashes. -/
  | between
  /-- A byte in one of the ranges, or in none of them. -/
  | oneOf (isNegated : Bool) (ranges : List (Char × Char))
  /-- One of several sequences. -/
  | choice (branches : List (List Piece))

/-! ### Matching -/

/-- The bytes of a character. -/
def bytesOf (c : Char) : List UInt8 :=
  String.utf8EncodeChar c

/-- The slash between components. -/
def slash : UInt8 := 47

/-- The byte ranges of a range of characters. Only the innermost bytes of two different ends span a
range; every other byte of them stands for itself. -/
def byteRanges (range : Char × Char) : List (UInt8 × UInt8) :=
  let first := bytesOf range.1
  if range.1 = range.2 then first.map fun byte => (byte, byte)
  else
    let last := bytesOf range.2
    first.dropLast.map (fun byte => (byte, byte)) ++ [(first.getLastD 0, last.headD 0)] ++
      last.tail.map fun byte => (byte, byte)

/-- Whether a byte belongs to a set of ranges. -/
def isOneOf (ranges : List (Char × Char)) (byte : UInt8) : Bool :=
  (ranges.flatMap byteRanges).any fun range => range.1 ≤ byte && byte ≤ range.2

/-- What is left of a path behind each of its slashes. -/
def behindSlashes : List UInt8 → List (List UInt8)
  | [] => []
  | byte :: rest => if byte = slash then rest :: behindSlashes rest else behindSlashes rest

/-- What can be left of a path behind any run of bytes without a slash. -/
def behindRun : List UInt8 → List (List UInt8)
  | [] => [[]]
  | byte :: rest => (byte :: rest) :: if byte = slash then [] else behindRun rest

/-- What can be left of a path behind any run of bytes. -/
def behindAny : List UInt8 → List (List UInt8)
  | [] => [[]]
  | byte :: rest => (byte :: rest) :: behindAny rest

mutual

/-- Whether a piece is a choice that offers nothing. -/
def Piece.isVoid : Piece → Bool
  | .choice branches => allVoid branches
  | _ => false

/-- Whether a sequence offers nothing. -/
def isVoid : List Piece → Bool
  | [] => true
  | piece :: others => piece.isVoid && isVoid others

/-- Whether every one of several sequences offers nothing. -/
def allVoid : List (List Piece) → Bool
  | [] => true
  | branch :: others => isVoid branch && allVoid others

end

mutual

/-- What can be left of a path behind a piece. A choice without any branch to offer takes nothing. -/
def Piece.rests : Piece → List UInt8 → List (List UInt8)
  | .literal c, path =>
    let bytes := bytesOf c
    if bytes.isPrefixOf path then [path.drop bytes.length] else []
  | .any, path =>
    match path with
    | [] => []
    | byte :: rest => if byte = slash then [] else [rest]
  | .many, path => behindRun path
  | .leading, path => path :: behindSlashes path
  | .trailing, path =>
    match path with
    | [] => []
    | byte :: rest => if byte = slash then behindAny rest else []
  | .between, path =>
    match path with
    | [] => []
    | byte :: rest => if byte = slash then rest :: behindSlashes rest else []
  | .oneOf isNegated ranges, path =>
    match path with
    | [] => []
    | byte :: rest => if isOneOf ranges byte != isNegated then [rest] else []
  | .choice branches, path =>
    if allVoid branches then [path] else branchRests branches path

/-- What can be left of a path behind a sequence. -/
def rests : List Piece → List UInt8 → List (List UInt8)
  | [], path => [path]
  | piece :: others, path => (piece.rests path).eraseDups.flatMap fun rest => rests others rest

/-- What can be left of a path behind one of several sequences, empty ones apart. -/
def branchRests : List (List Piece) → List UInt8 → List (List UInt8)
  | [], _ => []
  | branch :: others, path =>
    if isVoid branch then branchRests others path
    else rests branch path ++ branchRests others path

end

/-- Whether a pattern matches a whole path. Two stars alone match every path. -/
def accepts (pieces : List Piece) (path : List UInt8) : Bool :=
  match pieces with
  | [.leading] => true
  | _ => (rests pieces path).any List.isEmpty

mutual

/-- Whether every byte range of a piece runs upward. -/
def Piece.isOrderly : Piece → Bool
  | .oneOf _ ranges => (ranges.flatMap byteRanges).all fun range => range.1 ≤ range.2
  | .choice branches => areOrderly branches
  | _ => true

/-- Whether every byte range of a sequence runs upward. -/
def isOrderly : List Piece → Bool
  | [] => true
  | piece :: others => piece.isOrderly && isOrderly others

/-- Whether every byte range of several sequences runs upward. -/
def areOrderly : List (List Piece) → Bool
  | [] => true
  | branch :: others => isOrderly branch && areOrderly others

end

/-! ### Reading -/

/-- How a set of characters in brackets is read. -/
inductive SetReading where
  /-- The bracket is never closed. -/
  | unclosed
  /-- A range runs downward. -/
  | invalid
  /-- The ranges, in reverse, and the characters through the closing bracket. -/
  | closed (ranges : List (Char × Char)) (length : Nat)

/-- Reads the ranges of a set. `length` characters are already read, with the ranges in reverse;
`inRange` tells that a dash has just been read behind a character. -/
def setFrom (ranges : List (Char × Char)) (isFirst inRange : Bool) (length : Nat) :
    List Char → SetReading
  | [] => .unclosed
  | c :: rest =>
    if c = ']' && !isFirst then
      .closed (if inRange then ('-', '-') :: ranges else ranges) (length + 1)
    else if c = '-' && !isFirst && !inRange then setFrom ranges false true (length + 1) rest
    else
      match ranges with
      | (low, _) :: others =>
        if !inRange then setFrom ((c, c) :: ranges) false false (length + 1) rest
        else if c < low then .invalid
        else setFrom ((low, c) :: others) false false (length + 1) rest
      | [] => setFrom [(c, c)] false false (length + 1) rest

/-- Reads a set behind its opening bracket. A mark of negation may come first. -/
def readSet (text : List Char) : Bool × SetReading :=
  match text with
  | [] => (false, .unclosed)
  | c :: rest =>
    if c = '!' || c = '^' then (true, setFrom [] true false 1 rest)
    else (false, setFrom [] true false 0 text)

/-- A choice that is being read: its finished branches and what stands before it, both in reverse. -/
structure Opening where
  branches : List (List Piece)
  before : List Piece

/-- What is read so far: the current sequence in reverse, the choices around it, and whether an
unclosed bracket has been met, after which brackets are ordinary characters. -/
structure Reading where
  current : List Piece
  around : List Opening
  isBracketPlain : Bool

namespace Reading

/-- Adds a piece. -/
def push (reading : Reading) (piece : Piece) : Reading :=
  { reading with current := piece :: reading.current }

/-- Reads two stars, and a slash behind them where it belongs to them. The result holds the number
of characters read behind the first star. -/
def doubleStar (reading : Reading) (previous : Option Char) (behind : List Char) : Reading × Nat :=
  let plain := ((reading.push .many).push .many, 1)
  let isWithin := !reading.around.isEmpty
  match reading.current with
  | [] =>
    match behind with
    | [] => (reading.push .leading, 1)
    | c :: _ => if c = '/' then (reading.push .leading, 2) else plain
  | last :: earlier =>
    let begins := previous == some '/' ||
      (isWithin && (previous == some ',' || previous == some '{'))
    if !begins then plain
    else
      let replaceLast (piece : Piece) : Reading :=
        match last with
        | .leading => reading
        | .trailing => reading
        | _ => { reading with current := piece :: earlier }
      match behind with
      | [] => (replaceLast .trailing, 1)
      | c :: _ =>
        if isWithin && (c = ',' || c = '}') then (replaceLast .trailing, 1)
        else if c = '/' then (replaceLast .between, 2)
        else plain

/-- Reads on behind the character `previous`, after skipping `skip` characters. -/
def readFrom? (reading : Reading) (previous : Option Char) (skip : Nat) :
    List Char → Option Reading
  | [] => some reading
  | c :: rest =>
    match skip with
    | skip + 1 => readFrom? reading (some c) skip rest
    | 0 =>
      match c with
      | '?' => readFrom? (reading.push .any) (some c) 0 rest
      | '*' =>
        match rest with
        | '*' :: behind =>
          let (reading, length) := reading.doubleStar previous behind
          readFrom? reading (some c) length rest
        | _ => readFrom? (reading.push .many) (some c) 0 rest
      | '[' =>
        if reading.isBracketPlain then readFrom? (reading.push (.literal c)) (some c) 0 rest
        else
          match readSet rest with
          | (_, .invalid) => none
          | (_, .unclosed) =>
            readFrom? { reading.push (.literal c) with isBracketPlain := true } (some c) 0 rest
          | (isNegated, .closed ranges length) =>
            readFrom? (reading.push (.oneOf isNegated ranges.reverse)) (some c) length rest
      | '{' => readFrom? ⟨[], ⟨[], reading.current⟩ :: reading.around, reading.isBracketPlain⟩
          (some c) 0 rest
      | ',' =>
        match reading.around with
        | [] => readFrom? (reading.push (.literal c)) (some c) 0 rest
        | opening :: outer =>
          let opening := { opening with branches := reading.current.reverse :: opening.branches }
          readFrom? ⟨[], opening :: outer, reading.isBracketPlain⟩ (some c) 0 rest
      | '}' =>
        match reading.around with
        | [] => none
        | opening :: outer =>
          let branches := (reading.current.reverse :: opening.branches).reverse
          readFrom? ⟨.choice branches :: opening.before, outer, reading.isBracketPlain⟩
            (some c) 0 rest
      | '\\' =>
        match rest with
        | [] => none
        | escaped :: _ => readFrom? (reading.push (.literal escaped)) (some c) 1 rest
      | _ => readFrom? (reading.push (.literal c)) (some c) 0 rest

end Reading

/-- A pattern as pieces. There are none if a set has a range that runs downward, if a brace has no
partner, or if a backslash ends the pattern. -/
def parse? (pattern : List Char) : Option (List Piece) :=
  match Reading.readFrom? ⟨[], [], false⟩ none 0 pattern with
  | some reading => if reading.around.isEmpty then some reading.current.reverse else none
  | none => none

end Glob

end MessageRefs.Ignore
