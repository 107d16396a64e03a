import Recrawl.Bytes
import Recrawl.Xml.Namespace

/-!
The namespaces of sitemaps and of the two extensions that are read.
-/
namespace Recrawl.Sitemap

inductive Vocabulary
  | sitemap
  | news
  | links
  | other
  deriving DecidableEq, Repr

namespace Vocabulary

def sitemapUri : String := "http://www.sitemaps.org/schemas/sitemap/0.9"

/-- Other spellings and earlier versions of the namespace of the protocol. -/
def legacyUris : List String := [
  "https://www.sitemaps.org/schemas/sitemap/0.9",
  "http://www.sitemaps.org/schemas/sitemap/0.9/",
  "https://www.sitemaps.org/schemas/sitemap/0.9/",
  "http://www.google.com/schemas/sitemap/0.84",
  "https://www.google.com/schemas/sitemap/0.84",
  "http://www.google.com/schemas/sitemap/0.9",
  "https://www.google.com/schemas/sitemap/0.9",
  "http://www.google.com/schemas/sitemap/0.90",
  "https://www.google.com/schemas/sitemap/0.90"]

def newsUris : List String := [
  "http://www.google.com/schemas/sitemap-news/0.9",
  "https://www.google.com/schemas/sitemap-news/0.9",
  "http://www.google.com/schemas/sitemap-news/0.84",
  "https://www.google.com/schemas/sitemap-news/0.84"]

def linksUri : String := "http://www.w3.org/1999/xhtml"

def ofUri (uri : Bytes) : Vocabulary :=
  if (sitemapUri :: legacyUris).any fun u => uri == Bytes.ofString u then sitemap
  else if newsUris.any fun u => uri == Bytes.ofString u then news
  else if uri == Bytes.ofString linksUri then links
  else other

/-- The meaning of an element's namespace. The absence of one is accepted as the sitemap
namespace. -/
def ofNamespace : Xml.Namespace → Vocabulary
  | .bound uri => ofUri uri
  | .none => sitemap
  | .undeclared => other

def name : Vocabulary → String
  | sitemap => "Sitemap"
  | news => "News"
  | links => "Links"
  | other => "Other"

end Vocabulary

end Recrawl.Sitemap
