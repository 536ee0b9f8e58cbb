import FluentWrap.Command.Settings
import FluentWrap.Metadata.Manifest
import FluentWrap.Proofs.Config.Search

/-!
What a command reads before it writes. Reading the settings and the manifests leaves the files alone.
-/

set_option autoImplicit false

namespace FluentWrap

open Session

namespace Manifest

theorem reading_load (p : Path) : Reading (load p) := by
  refine (reading_readText p).bind fun contents => ?_
  split
  · exact reading_pure _
  · split
    · exact reading_pure _
    · exact (reading_report _).bind fun _ => (reading_reportAll _).bind fun _ => reading_pure _

theorem reading_loadInto (registry : Registry) (paths : List Path) :
    Reading (loadInto registry paths) := by
  induction paths generalizing registry with
  | nil => exact reading_pure _
  | cons p rest ih =>
    refine (reading_load p).bind fun loaded => ?_
    split
    · exact reading_pure _
    · exact (reading_reportAll _).bind fun _ => ih _

theorem reading_loadAll (paths : List Path) : Reading (loadAll paths) :=
  reading_loadInto .empty paths

end Manifest

namespace Command

theorem reading_attempt {α : Type} (what : String) {action : Action (Except Error α)}
    (reading : Reading action) : Reading (attempt what action).run :=
  reading.map _

theorem reading_settings (overrides : Overrides) : Reading (settings overrides).run := by
  refine Reading.run_bind ?_ fun config => reading_pure _
  unfold baseSettings
  split
  · exact reading_attempt _ (Config.reading_load _)
  · exact reading_attempt _ Config.reading_loadHere

end Command

end FluentWrap
