import ToolRelay.Decimal.Digits
import ToolRelay.Payload

/-!
# Templates

A template turns a payload into text, with the query that it answers in the heading. Search
templates render records, each in a numbered block; the others render what a program printed. A
payload of the other sort does not fit the template.
-/

set_option autoImplicit false

namespace ToolRelay

/-- What a search of GitHub looks for. -/
inductive GitHubScope
  | repos
  | code
  deriving DecidableEq, Repr

/-- How a payload is worded. -/
inductive Template
  | webSearch
  | images
  | news
  | code
  | stackOverflow
  | docs
  | packages
  | gitHub (scope : GitHubScope)
  | commitSearch
  | fileHistory
  | scipIndex
  deriving DecidableEq, Repr

namespace Template

/-- The name of the template in diagnostics. -/
def name : Template → String
  | .webSearch => "web search"
  | .images => "images"
  | .news => "news"
  | .code => "code"
  | .stackOverflow => "stack overflow"
  | .docs => "docs"
  | .packages => "packages"
  | .gitHub _ => "github"
  | .commitSearch => "commit search"
  | .fileHistory => "file history"
  | .scipIndex => "scip index"

/-- What a template shows of each record besides its title and address. -/
structure Layout where
  /-- The start of the sentence that stands for no records at all. -/
  nothing : String
  heading : String
  content : Bool := false
  engine : Bool := false
  published : Bool := false
  registry : Bool := false
  image : Bool := false

/-- The layout of a template that renders records. -/
def layout? : Template → Option Layout
  | .webSearch => some
    { nothing := "No results found for", heading := "Search Results"
      content := true, engine := true }
  | .images => some
    { nothing := "No image results found for", heading := "Image Results", image := true }
  | .news => some
    { nothing := "No news results found for", heading := "News Results"
      content := true, engine := true, published := true }
  | .code => some
    { nothing := "No code/IT results found for", heading := "Code & IT Results"
      content := true, engine := true }
  | .stackOverflow => some
    { nothing := "No Stack Overflow results found for", heading := "Stack Overflow Results"
      content := true }
  | .docs => some
    { nothing := "No documentation found for", heading := "Documentation Results"
      content := true, engine := true }
  | .packages => some
    { nothing := "No packages found for", heading := "Package Results"
      content := true, registry := true }
  | .gitHub .repos => some
    { nothing := "No GitHub repos found for", heading := "GitHub Repository Results"
      content := true }
  | .gitHub .code => some
    { nothing := "No GitHub code found for", heading := "GitHub Code Results", content := true }
  | .commitSearch | .fileHistory | .scipIndex => none

/-- Whether the first text occurs in the second. -/
def occurs (part : List Char) : List Char → Bool
  | [] => part.isEmpty
  | c :: r => part.isPrefixOf (c :: r) || occurs part r

/-- The package registry that an address belongs to. -/
def registryLabel (url : String) : String :=
  if occurs "npmjs.com".toList url.toList then "npm"
  else if occurs "pypi.org".toList url.toList then "PyPI"
  else if occurs "crates.io".toList url.toList then "crates.io"
  else if occurs "rubygems.org".toList url.toList then "RubyGems"
  else "Unknown"

/-- A text that is there and not empty. -/
def present (field : Option String) : Option String :=
  field.filter (· ≠ "")

/-- A whole number in decimal. -/
def number (n : Nat) : String :=
  String.ofList (Decimal.ofNat n)

/-- The lines of a record's block, without the blank line that ends it. -/
def Layout.lines (l : Layout) (index : Nat) (r : SearchRecord) : List String :=
  let title := "### " ++ number index ++ ". " ++ (present r.title).getD "No title"
  if l.image then
    [title, "**Image URL:** " ++ (present r.imageSource).getD r.url, "**Page URL:** " ++ r.url] ++
      ((present r.source).map fun s => "*Source: " ++ s ++ "*").toList
  else
    [title] ++
      (if l.registry then ["**Registry:** " ++ registryLabel r.url] else []) ++
      ["**URL:** " ++ r.url] ++
      (if l.published then ((present r.publishedDate).map ("**Published:** " ++ ·)).toList else []) ++
      (if l.content then (present r.content).toList else []) ++
      (if l.engine then ((present r.engine).map fun e => "*Source: " ++ e ++ "*").toList else [])

/-- The block of a record. -/
def Layout.block (l : Layout) (index : Nat) (r : SearchRecord) : String :=
  String.join ((l.lines index r).map (· ++ "\n")) ++ "\n"

/-- The blocks of some records, numbered from `index` on. -/
def Layout.blocks (l : Layout) : (index : Nat) → List SearchRecord → String
  | _, [] => ""
  | index, r :: rs => l.block index r ++ l.blocks (index + 1) rs

/-- The query between quotes. -/
def inQuotes (query : String) : String :=
  "\"" ++ query ++ "\""

/-- The text of some records. -/
def Layout.render (l : Layout) (query : String) (records : List SearchRecord) : String :=
  if records.isEmpty then l.nothing ++ ": " ++ inQuotes query
  else "## " ++ l.heading ++ " for: " ++ inQuotes query ++ "\n\n" ++ l.blocks 1 records

/-- Lines, each numbered from `index` on and without the white space at its end. -/
def numbered : (index : Nat) → List (List Char) → String
  | _, [] => ""
  | index, l :: ls =>
    number index ++ ". " ++ String.ofList (Text.trimEnd l) ++ "\n" ++ numbered (index + 1) ls

/-- The text of a log: its lines that are not blank, numbered. -/
def renderLog (nothing heading query stdout : String) : String :=
  let lines := (Text.lines stdout.toList).filter fun l => !l.all Text.isBlank
  if lines.isEmpty then nothing ++ ": " ++ inQuotes query
  else "## " ++ heading ++ ": " ++ inQuotes query ++ "\n\n" ++ numbered 1 lines

/-- The text of what a program printed, for a template that renders that. -/
def renderOutput? (t : Template) (query : String) (o : CommandOutput) : Option String :=
  match t with
  | .scipIndex => some ("Successfully created index.scip at " ++ query ++ "\nOutput: " ++ o.stdout ++
      "\nErrors: " ++ o.stderr)
  | .commitSearch => some (renderLog "No matches found for" "Commits matching" query o.stdout)
  | .fileHistory => some (renderLog "No history found for file" "History of" query o.stdout)
  | _ => none

/-- A payload of a sort that the template does not render. -/
structure Mismatch where
  template : Template
  /-- What the payload holds. -/
  found : String
  deriving DecidableEq, Repr

/-- The text of a mismatch. -/
def Mismatch.message (m : Mismatch) : String :=
  m.template.name ++ " template cannot render " ++ m.found

/-- The text of a payload. -/
def render (t : Template) (query : String) : Payload → Except Mismatch String
  | .records rs => match t.layout? with
    | some l => .ok (l.render query rs)
    | none => .error ⟨t, "search records"⟩
  | .output o => match t.renderOutput? query o with
    | some text => .ok text
    | none => .error ⟨t, "command output"⟩

end Template
end ToolRelay
