import Recrawl.Gzip.Member
import Recrawl.Log
import Recrawl.Sitemap.Reader
import Recrawl.Text.Quoted

/-!
Reading the content of a sitemap: XML, gzip, or a plain list of addresses with
one on each line.
-/
namespace Recrawl.Sitemap

/-- The content begins with markup, apart from a byte order mark and blanks. -/
def looksLikeXml (content : Bytes) : Bool :=
  match (Xml.dropMark content).dropWhile Bytes.isAsciiBlank with
  | 0x3C :: _ => true
  | _ => false

/-- The lines of a text, without the blanks at their ends and without empty lines. -/
def linesOf (text : List Char) : List (List Char) :=
  ((text.splitOnP (· == '\n')).map Text.trimChars).filter fun line => !line.isEmpty

/-- The page that a line names, if it is an address of the web. -/
def lineEntry? (line : List Char) : Option Entry :=
  match Url.ofChars line with
  | .ok url => if url.isHttp then some { location := url } else none
  | .error _ => none

/-- The characters of a text without a byte order mark. -/
def dropTextMark : List Char → List Char
  | c :: rest => if c.toNat == 0xFEFF then rest else c :: rest
  | [] => []

def plainLines (content : Bytes) : List (List Char) :=
  linesOf (dropTextMark (Text.Utf8.lossy content))

/-- Reads a plain list; lines that name no page are passed over. -/
def readPlain (url : String) (content : Bytes) : Logged Sitemap := do
  let found ← (plainLines content).mapM fun line => do
    match lineEntry? line with
    | some entry => pure (some entry)
    | none =>
      report .debug .sitemapReader
        (url ++ ": ignoring line in text sitemap: " ++ Text.Quoted.quote (String.ofList line))
      pure none
  pure ⟨.urlSet, found.filterMap id, false⟩

/-- Reports an element that should be an entry and is none. -/
def reportItem (item : Item) : Logged Unit :=
  match item with
  | .entry _ => pure ()
  | .unnamed => report .debug .sitemapReader "Skipping sitemap entry without <loc>"
  | .invalid location fault =>
    report .debug .sitemapReader
      ("Skipping sitemap entry with invalid URL " ++ Text.Quoted.quote location ++ ": " ++
        fault.message)

/-- The sitemap that a reader has read. A fault behind the root element keeps the entries in front
of it, if `allowPartial`. -/
def Reader.result (allowPartial : Bool) (r : Reader) : Except Fault Sitemap :=
  match r.kind, r.place with
  | some kind, .failed fault =>
    if allowPartial then .ok ⟨kind, r.entries, true⟩ else .error fault
  | none, .failed fault => .error fault
  | some kind, _ => .ok ⟨kind, r.entries, false⟩
  | none, _ => .error .empty

def readDocument (allowPartial : Bool) (url : String) (content : Bytes) :
    Logged (Except Fault Sitemap) := do
  let reader := readXml content
  reader.items.reverse.forM reportItem
  let result := reader.result allowPartial
  match result, reader.place with
  | .ok sitemap, .failed fault =>
    report .warn .sitemapReader
      (s!"{url}: partial sitemap, keeping {sitemap.entries.length} entries read before error: " ++
        fault.message)
  | _, _ => pure ()
  pure result

/-- The beginning of some content, decompressed as far as possible. -/
def peek (limit : Nat) (content : Bytes) : Logged Bytes := do
  let delivery := Gzip.peek limit content
  match delivery.fault with
  | some fault =>
    report .debug .sitemapReader
      s!"Gzip content undecodable after {delivery.output.length} bytes: {fault.message}"
  | none => pure ()
  pure delivery.output

/-- Reads the content of a sitemap. It is a plain list if its content type says so or if it does not
begin with markup. -/
def read (allowPartial : Bool) (url : String) (content : Bytes) (contentType : Option String) :
    Logged (Except Fault Sitemap) :=
  match Gzip.decode content with
  | .error fault => pure (.error (.gzip fault.message))
  | .ok content =>
    if content.all Bytes.isAsciiBlank then pure (.error .empty)
    else
      let plain := contentType.any fun type =>
        Bytes.occursIn (Bytes.ofString "text/plain") (Bytes.ofString type)
      if plain || !looksLikeXml content then .ok <$> readPlain url content
      else readDocument allowPartial url content

end Recrawl.Sitemap
