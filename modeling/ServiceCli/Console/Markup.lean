import ServiceCli.Console.Pictogram
import ServiceCli.Console.StyledText
import ServiceCli.Failure

/-!
Markup: tags in square brackets that set a style for the text up to their closing tag. A backslash
before a tag makes it plain text, and pictures may be given by name. What is wrong with markup is a
closing tag that closes nothing, or a style with a number that cannot be read.
-/

set_option autoImplicit false
set_option relaxedAutoImplicit false

namespace ServiceCli.Console

def beginsTag (c : Char) : Bool := ('a' ≤ c && c ≤ 'z') || c == '#' || c == '/' || c == '@'

/-- The content of a tag after its opening bracket, and what follows its closing bracket. -/
def takeTag? : List Char → Option (List Char × List Char)
  | [] => none
  | c :: rest =>
    let body := rest.takeWhile fun c => c != ']' && c != '['
    match rest.drop body.length with
    | ']' :: tail => if beginsTag c then some (c :: body, tail) else none
    | _ => none

/-- A part of markup: text, or a tag with the backslashes before it. -/
inductive Piece where
  | text (cs : List Char)
  | tag (backslashes : Nat) (content : List Char)
  deriving DecidableEq, Repr

def consChar (c : Char) : List Piece → List Piece
  | .text cs :: rest => .text (c :: cs) :: rest
  | pieces => .text [c] :: pieces

/-- A tag at the head of a text, with the number of backslashes before it and what follows. -/
def tagAt? (cs : List Char) : Option (Nat × List Char × List Char) :=
  let backslashes := (cs.takeWhile (· == '\\')).length
  match cs.drop backslashes with
  | '[' :: rest => (takeTag? rest).map fun (content, tail) => (backslashes, content, tail)
  | _ => none

/-- The pieces of a text; `fuel` bounds their number. -/
def piecesFrom : Nat → List Char → List Piece
  | 0, _ => []
  | _ + 1, [] => []
  | fuel + 1, c :: rest =>
    -- a tag is found at the first backslash before it, since no tag begins with one
    match tagAt? (c :: rest) with
    | some (backslashes, content, tail) => .tag backslashes content :: piecesFrom fuel tail
    | none => consChar c (piecesFrom fuel rest)

def pieces (cs : List Char) : List Piece := piecesFrom (cs.length + 1) cs

/-- Text between tags: a backslash before a bracket is not shown. -/
def unescape : List Char → List Char
  | '\\' :: '[' :: rest => '[' :: unescape rest
  | c :: rest => c :: unescape rest
  | [] => []

/-- A tag that was opened at a place of the text. -/
structure OpenTag where
  start : Nat
  name : String
  argument : Option String
  deriving DecidableEq, Repr

def OpenTag.style (tag : OpenTag) : String :=
  tag.argument.elim tag.name fun argument => tag.name ++ " " ++ argument

/-- The part of a text that a closed tag styles. A tag for an action has no style. -/
def OpenTag.closedAt (tag : OpenTag) (stop : Nat) : Span :=
  ⟨tag.start, stop, if tag.name.startsWith "@" then "" else tag.style⟩

/-- A text while its markup is read: its characters, the tags that are open and the parts that are
complete, with the last one of both first. -/
structure Draft where
  chars : List Char
  tags : List OpenTag
  spans : List Span
  deriving Repr

/-- Takes out the tag that was opened last among those with a name. -/
def takeTagNamed? (name : String) : List OpenTag → Option (OpenTag × List OpenTag)
  | [] => none
  | top :: rest =>
    if top.name = name then some (top, rest)
    else (takeTagNamed? name rest).map fun (tag, others) => (tag, top :: others)

def ofStyle {α : Type} : Except StyleProblem α → Outcome α
  | .ok a => .ok a
  | .error _ => faulty .malformedValue

namespace Draft

/-- Adds text, in which names stand for pictures. -/
def addText (d : Draft) (cs : List Char) : Draft :=
  { d with chars := d.chars ++ withoutControls (withPictures cs) }

def close (d : Draft) (tag : OpenTag) (others : List OpenTag) : Draft :=
  { d with tags := others, spans := tag.closedAt d.chars.length :: d.spans }

/-- Adds a tag, given what stands between its brackets. -/
def addTag (d : Draft) (content : List Char) : Outcome Draft :=
  let name := content.takeWhile (· != '=')
  match name with
  | '/' :: closed => do
    let closed := Text.strip (String.ofList closed)
    let found? := if closed.isEmpty then
        match d.tags with
        | top :: rest => .ok (some (top, rest))
        | [] => .ok none
      else (Style.normalize closed).map fun closed => takeTagNamed? closed d.tags
    match ← ofStyle found? with
    | some (tag, others) => return d.close tag others
    | none => faulty .unmatchedMarkup
  | name => do
    let argument := match content.drop name.length with
      | _ :: argument => some (String.ofList argument)
      | [] => none
    let style ← ofStyle (Style.normalize (String.ofList name))
    return { d with tags := ⟨d.chars.length, style, argument⟩ :: d.tags }

def addPiece (d : Draft) : Piece → Outcome Draft
  | .text cs => .ok (d.addText (unescape cs))
  | .tag backslashes content =>
    let d := d.addText (List.replicate (backslashes / 2) '\\')
    if backslashes % 2 == 1 then .ok (d.addText ('[' :: content ++ [']']))
    else d.addTag content

/-- The text that was read. Tags that are still open reach to its end; of two parts the one that
begins earlier is the lower one, and of those that begin together the one that was closed later. -/
def finish (d : Draft) : StyledText :=
  let openSpans := d.tags.map fun tag => ⟨tag.start, d.chars.length, tag.style⟩
  ⟨d.chars, (openSpans.reverse ++ d.spans).mergeSort fun a b => a.start ≤ b.start⟩

end Draft

/-- The text that markup gives. Without a bracket there is no tag in it. -/
def StyledText.ofMarkup (cs : List Char) : Outcome StyledText :=
  if cs.contains '[' then do
    return ((← (pieces cs).foldlM Draft.addPiece ⟨[], [], []⟩)).finish
  else .ok (.plain (withPictures cs))

def Piece.escaped : Piece → List Char
  | .text cs => cs
  | .tag backslashes content =>
    List.replicate (2 * backslashes + 1) '\\' ++ '[' :: content ++ [']']

/-- Markup that shows a text. -/
def escape (cs : List Char) : List Char :=
  let out := (pieces cs).flatMap Piece.escaped
  -- a single backslash at the end is doubled, so that it escapes nothing that follows
  match out.reverse with
  | '\\' :: '\\' :: _ => out
  | '\\' :: _ => out ++ ['\\']
  | _ => out

end ServiceCli.Console
