/-!
# Blanks, comments, keys and strings of TOML

Readers of the small parts of a TOML document.  Each takes characters from the front of its input
and gives what it read together with the rest, or nothing if the input is malformed there.  Line
ends are line feeds; a carriage return before one was dropped beforehand.
-/

namespace ProseTrace.Config.Toml

abbrev Key := List String

def isBlank (c : Char) : Bool := c == ' ' || c == '\t'

def isBlankOrNewline (c : Char) : Bool := isBlank c || c == '\n'

/-- Characters that stand neither in comments nor in strings of one line. -/
def isControl (c : Char) : Bool := (c.toNat < 0x20 || c.toNat == 0x7F) && c != '\t'

def isBareKey (c : Char) : Bool := c.isAlphanum || c == '-' || c == '_'

def skipBlanks (input : List Char) : List Char := input.dropWhile isBlank

/-- The input behind a comment, if one starts there; its line end stays. -/
def skipComment (input : List Char) : Option (List Char) :=
  match input with
  | '#' :: rest =>
    if (rest.takeWhile (· != '\n')).any isControl then none else some (rest.dropWhile (· != '\n'))
  | _ => some input

def skipTriviaFrom (inComment : Bool) : List Char → Option (List Char)
  | [] => some []
  | c :: rest =>
    if inComment then
      if c == '\n' then skipTriviaFrom false rest
      else if isControl c then none
      else skipTriviaFrom true rest
    else if isBlankOrNewline c then skipTriviaFrom false rest
    else if c == '#' then skipTriviaFrom true rest
    else some (c :: rest)

def skipTrivia (input : List Char) : Option (List Char) := skipTriviaFrom false input

def hexValue? (digits : List Char) : Option Nat :=
  digits.foldlM (fun n c =>
    if c.isDigit then some (16 * n + (c.toNat - '0'.toNat))
    else if 'a' ≤ c ∧ c ≤ 'f' then some (16 * n + (c.toNat - 'a'.toNat + 10))
    else if 'A' ≤ c ∧ c ≤ 'F' then some (16 * n + (c.toNat - 'A'.toNat + 10))
    else none) 0

/-- The character with a code point written in hexadecimal; a surrogate is none. -/
def scalar? (digits : List Char) : Option Char := do
  let n ← hexValue? digits
  if n.isValidChar then some (Char.ofNat n) else none

def escape? : Char → Option Char
  | 'b' => some '\x08'
  | 't' => some '\t'
  | 'n' => some '\n'
  | 'f' => some '\x0c'
  | 'r' => some '\r'
  | '"' => some '"'
  | '\\' => some '\\'
  | _ => none

inductive Inside where
  | text
  /-- Behind a backslash and blanks, where only a line end may follow. -/
  | beforeNewline
  /-- Behind an escaped line end, where blanks and line ends are skipped. -/
  | afterNewline
  deriving DecidableEq

/-- The rest of a basic string; `read` holds the characters so far, last first. -/
def basicBody (multiline : Bool) (inside : Inside) (read : List Char) :
    List Char → Option (List Char × List Char)
  | [] => none
  | '\\' :: 'u' :: a :: b :: c :: d :: rest =>
    if inside = .beforeNewline then none
    else do basicBody multiline .text ((← scalar? [a, b, c, d]) :: read) rest
  | '\\' :: 'U' :: a :: b :: c :: d :: e :: f :: g :: h :: rest =>
    if inside = .beforeNewline then none
    else do basicBody multiline .text ((← scalar? [a, b, c, d, e, f, g, h]) :: read) rest
  | '\\' :: c :: rest =>
    if inside = .beforeNewline then none
    else if multiline && isBlank c then basicBody multiline .beforeNewline read rest
    else if multiline && c == '\n' then basicBody multiline .afterNewline read rest
    else do basicBody multiline .text ((← escape? c) :: read) rest
  | '"' :: '"' :: '"' :: rest =>
    if inside = .beforeNewline then none
    else if multiline then some (read.reverse, rest)
    else some (read.reverse, '"' :: '"' :: rest)
  | c :: rest =>
    if inside = .beforeNewline then
      if isBlank c then basicBody multiline .beforeNewline read rest
      else if c == '\n' then basicBody multiline .afterNewline read rest
      else none
    else if inside = .afterNewline && isBlankOrNewline c then
      basicBody multiline .afterNewline read rest
    else if c == '"' then
      if multiline then basicBody multiline .text (c :: read) rest else some (read.reverse, rest)
    else if c == '\\' then none
    else if isControl c && !(multiline && c == '\n') then none
    else basicBody multiline .text (c :: read) rest

def literalBody (input : List Char) : Option (List Char × List Char) :=
  let body := input.takeWhile (· != '\'')
  match input.dropWhile (· != '\'') with
  | _ :: rest => if body.any isControl then none else some (body, rest)
  | [] => none

/-- The rest of a literal string of several lines; `read` holds the characters so far, last first.
-/
def multilineLiteralBody (read : List Char) : List Char → Option (List Char × List Char)
  | [] => none
  | '\'' :: '\'' :: '\'' :: rest => some (read.reverse, rest)
  | c :: rest =>
    if isControl c && c != '\n' then none else multilineLiteralBody (c :: read) rest

/-- Up to two quotes in front of the closing three belong to the string. -/
def extraQuotes (mark : Char) (read : List Char × List Char) : List Char × List Char :=
  let (body, rest) := read
  let extra := (rest.take 2).takeWhile (· == mark)
  (body ++ extra, rest.drop extra.length)

private def dropNewline : List Char → List Char
  | '\n' :: rest => rest
  | input => input

def string? (input : List Char) : Option (String × List Char) :=
  let body := match input with
    | '"' :: '"' :: '"' :: rest =>
      (basicBody true .text [] (dropNewline rest)).map (extraQuotes '"')
    | '"' :: rest => basicBody false .text [] rest
    | '\'' :: '\'' :: '\'' :: rest =>
      (multilineLiteralBody [] (dropNewline rest)).map (extraQuotes '\'')
    | '\'' :: rest => literalBody rest
    | _ => none
  body.map fun (chars, rest) => (String.ofList chars, rest)

/-- One name of a key: bare, or a string of one line. -/
def keyName? (input : List Char) : Option (String × List Char) :=
  match input with
  | '"' :: rest => (basicBody false .text [] rest).map fun (s, rest) => (String.ofList s, rest)
  | '\'' :: rest => (literalBody rest).map fun (s, rest) => (String.ofList s, rest)
  | _ =>
    match input.takeWhile isBareKey with
    | [] => none
    | name => some (String.ofList name, input.dropWhile isBareKey)

private def keyNames? : Nat → List Char → Option (Key × List Char)
  | 0, _ => none
  | fuel + 1, input => do
    let (name, rest) ← keyName? input
    match skipBlanks rest with
    | '.' :: rest =>
      let (names, rest) ← keyNames? fuel (skipBlanks rest)
      return (name :: names, rest)
    | rest => return ([name], rest)

/-- A dotted key with the blanks behind it.  Each name takes a character at least. -/
def key? (input : List Char) : Option (Key × List Char) := keyNames? (input.length + 1) input

end ProseTrace.Config.Toml
