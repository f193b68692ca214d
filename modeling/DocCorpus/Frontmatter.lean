/-
  Frontmatter: YAML between two fences at the start of a text, and the body after it. A fence is a
  line of three hyphens with spaces or tabs behind them; the first line that can close the block
  does.
-/
import DocCorpus.Text.Blank
import DocCorpus.Text.Split
import DocCorpus.Yaml.Reader

namespace DocCorpus.Frontmatter

/-- What follows a line end. -/
def afterLineEnd? : List Char → Option (List Char)
  | '\n' :: rest => some rest
  | '\r' :: '\n' :: rest => some rest
  | _ => none

/-- What follows the hyphens, spaces and tabs of a fence. -/
def afterMark? (s : List Char) : Option (List Char) :=
  (Text.dropHead? "---".toList s).map (List.dropWhile fun c => c == ' ' || c == '\t')

/-- What follows an opening fence, which may come after a byte-order mark. -/
def afterOpening? (s : List Char) : Option (List Char) :=
  let s := if s.head? = some '\ufeff' then s.tail else s
  (afterMark? s).bind afterLineEnd?

/-- What follows a closing fence, which the end of the text may end. -/
def afterClosing? (s : List Char) : Option (List Char) :=
  match afterMark? s with
  | some [] => some []
  | some rest => afterLineEnd? rest
  | none => none

/-- The text before the first line end that precedes a closing fence, and what follows the
fence. -/
def cutAtClosing? : List Char → Option (List Char × List Char)
  | [] => none
  | c :: rest =>
    match (afterLineEnd? (c :: rest)).bind afterClosing? with
    | some body => some ([], body)
    | none => (cutAtClosing? rest).map fun (yaml, body) => (c :: yaml, body)

/-- The block and the body of a text that starts with a block. A closing fence right after the
opening one counts only if there is no other. -/
def cut? (s : List Char) : Option (List Char × List Char) :=
  match afterOpening? s with
  | none => none
  | some rest =>
    match cutAtClosing? rest with
    | some parts => some parts
    | none => (afterClosing? rest).map fun body => ([], body)

/-- The metadata and the body of a text. A text without a block is all body, and a blank block
holds no metadata. -/
def split (content : String) : Except Failure (Metadata × String) :=
  match cut? content.toList with
  | none => .ok (.empty, content)
  | some (yaml, body) =>
    if yaml.all isBlank then .ok (.empty, String.ofList body)
    else
      match Yaml.readMetadata (String.ofList yaml) with
      | .ok data => .ok (data, String.ofList body)
      | .error fault => .error (.parse (.frontmatter fault))

end DocCorpus.Frontmatter
