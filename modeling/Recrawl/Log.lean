/-!
Messages for the operator. A computation that has something to report returns
its value together with the messages in the order in which they arose, so that
reporting never changes a value.
-/
namespace Recrawl

namespace Log

/-- How urgent a message is, most urgent first. -/
inductive Level
  | error
  | warn
  | info
  | debug
  deriving DecidableEq, Repr

def Level.name : Level → String
  | error => "ERROR"
  | warn => "WARN"
  | info => "INFO"
  | debug => "DEBUG"

def Level.rank : Level → Nat
  | error => 0
  | warn => 1
  | info => 2
  | debug => 3

inductive Origin
  | settings
  | classify
  | sink
  | rotation
  | outlink
  | feed
  | sitemapType
  | sitemapReader
  | sitemapResolver
  | adaptive
  deriving DecidableEq, Repr

def Origin.name : Origin → String
  | settings => "config"
  | classify => "cmd::classify"
  | sink => "sink"
  | rotation => "rotation"
  | outlink => "outlink"
  | feed => "feed"
  | sitemapType => "sitemap::classifier"
  | sitemapReader => "sitemap::parser"
  | sitemapResolver => "sitemap::resolver"
  | adaptive => "adaptive"

structure Message where
  level : Level
  origin : Origin
  text : String
  deriving DecidableEq, Repr

end Log

/-- A value with the messages reported while it was computed, in order. -/
structure Logged (α : Type) where
  value : α
  messages : List Log.Message := []

namespace Logged

variable {α β : Type}

instance : Monad Logged where
  pure value := ⟨value, []⟩
  bind first next :=
    let second := next first.value
    ⟨second.value, first.messages ++ second.messages⟩

@[simp] theorem value_pure (a : α) : (pure a : Logged α).value = a := rfl

@[simp] theorem value_bind (first : Logged α) (next : α → Logged β) :
    (first >>= next).value = (next first.value).value := rfl

@[simp] theorem messages_pure (a : α) : (pure a : Logged α).messages = [] := rfl

@[simp] theorem messages_bind (first : Logged α) (next : α → Logged β) :
    (first >>= next).messages = first.messages ++ (next first.value).messages := rfl

@[simp] theorem value_map (f : α → β) (x : Logged α) : (f <$> x).value = f x.value := rfl

theorem value_mapM (f : α → Logged β) (xs : List α) :
    (xs.mapM f).value = xs.map fun x => (f x).value := by
  have hloop : ∀ (xs : List α) (before : List β),
      (List.mapM.loop f xs before).value = before.reverse ++ xs.map fun x => (f x).value := by
    intro xs
    induction xs with
    | nil => intro before; simp [List.mapM.loop]
    | cons x rest ih => intro before; simp [List.mapM.loop, ih]
  exact hloop xs []

end Logged

def report (level : Log.Level) (origin : Log.Origin) (text : String) : Logged Unit :=
  ⟨(), [⟨level, origin, text⟩]⟩

@[simp] theorem value_report (level : Log.Level) (origin : Log.Origin) (text : String) :
    (report level origin text).value = () := rfl

end Recrawl
