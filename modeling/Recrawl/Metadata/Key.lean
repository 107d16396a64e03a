/-!
The names of the metadata keys. They are kept between two visits, so they are
part of the contract with the crawl state.
-/
namespace Recrawl.Key

def isSitemap : String := "isSitemap"

def isSitemapNews : String := "isSitemapNews"

def isSitemapIndex : String := "isSitemapIndex"

/-- A sitemap that was reached through a verified index. -/
def isSitemapVerified : String := "isSitemapVerified"

def isFeed : String := "isFeed"

def signature : String := "signature"

/-- The signature of the content of the visit before. -/
def signatureOld : String := "signatureOld"

def fetchInterval : String := "fetchInterval"

def signatureChangeDate : String := "signatureChangeDate"

def numLinks : String := "numLinks"

def errorSource : String := "error.source"

def errorMessage : String := "error.message"

def contentType : String := "Content-Type"

def lastModified : String := "Last-Modified"

def statusCode : String := "fetch.statusCode"

/-- Minutes to wait before a discovered link is fetched. -/
def delay : String := "delay"

def depth : String := "depth"

def path : String := "url.path"

end Recrawl.Key
