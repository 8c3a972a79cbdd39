import CanaryMetrics.Catalog.Reader
import CanaryMetrics.Event
import CanaryMetrics.FileTree

namespace CanaryMetrics

/-!
# Loading a catalog from a file

* `LoadError` — why a catalog cannot be loaded.
* `Catalog.load` — the catalog of the file at a path and the event of its loading, or why there is none.
  Without a file the catalog is empty.
-/

/-- Why a catalog cannot be loaded. -/
inductive LoadError
  /-- A directory stands at the path. -/
  | isDirectory
  /-- The file's content is no text. -/
  | notText
  /-- The text describes no catalog. -/
  | unreadable (e : ReadError)
deriving DecidableEq, Repr

/-- The wording of a failure to load; what is wrong with a text is left to whoever reads it. -/
def LoadError.message : LoadError → String
  | isDirectory => "Is a directory (os error 21)"
  | notText => "stream did not contain valid UTF-8"
  | unreadable _ => "TOML parse error"

namespace Catalog

/-- The catalog of a file's content. -/
def ofContent (content : List UInt8) : Except LoadError Catalog :=
  match String.fromUTF8? content.toByteArray with
  | none => .error .notText
  | some text => (ofToml text).mapError .unreadable

/-- The catalog of what stands at a path, if anything does, and the event of its loading. -/
def load (path : String) : Option FileNode → Except LoadError (Catalog × Event)
  | none => .ok ({}, .absent path)
  | some .directory => .error .isDirectory
  | some (.file content) => do
    let catalog ← ofContent content
    pure (catalog, .loaded catalog.entries.length path)

/-- A file that holds a text gives the catalog that the text describes. -/
theorem ofContent_bytes (text : String) :
    ofContent text.toUTF8.data.toList = (ofToml text).mapError .unreadable := by
  simp only [ofContent, fromUTF8?_bytes]

/-! ### Unit test: a directory, a file that is no text, and a text -/

example : (load "a" (some .directory)).toOption = none ∧ (load "a" (some (.file [0xFF]))).toOption = none
    ∧ (load "a" (some (.ofText "x = 1"))).toOption = some ({}, .loaded 0 "a") := by
  decide +kernel

end Catalog

end CanaryMetrics
