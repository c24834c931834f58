/-
Settings as documents.
-/
import Trellis.Inspect.Basic
import Trellis.Settings.Basic

namespace Trellis.Inspect

/-- The settings for the store. -/
def storeSettings (s : StoreSettings) : Datum := .record [
  ("enabled", .bool s.enabled), ("driver", .text s.driver), ("dsn", .text s.address.value),
  ("shown", .text s.address.shown), ("secret", .bool s.address.hidden),
  ("compress", .bool s.compress)]

/-- All settings, the file that they are from, and a secret. -/
def settings (s : Settings) (path secret : String) : Datum := .record [
  ("path", .text path), ("baseDir", .text s.base), ("root", .text s.root),
  ("modulePrefix", .text s.modulePrefix), ("resourceRoot", .text s.resourceRoot),
  ("generator", .text s.generator), ("exceptionMode", .text s.exceptionMode),
  ("translateText", .bool s.translateText),
  ("i18n", texts [s.locale.locale, s.locale.folder, s.locale.currency, s.locale.timezone]),
  ("store", storeSettings s.store), ("cache", num s.cacheSize),
  ("watchMs", num (s.debounce.tdiv 1000000)),
  ("logging", texts [s.log.level, s.log.format, s.log.output]),
  ("location", .text s.zoneName), ("dsnYaml", .text s.store.address.yaml),
  ("secretYaml", .text (Secret.yaml ⟨secret, true⟩))]

end Trellis.Inspect
