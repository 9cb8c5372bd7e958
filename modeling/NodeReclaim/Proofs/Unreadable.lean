import NodeReclaim.Proofs.Precedence
import NodeReclaim.Rehearsal.World

/-! Which files can be reported about. Loading answers most of what is wrong with a file by refusing the
configuration, and a command then says so and fails. What is left over are files that are not UTF-8 or on which the
parser fails in a way of its own, and a credential that cannot be written into its refusal: these end the
command. -/
namespace NodeReclaim
open Program

namespace Settings

end Settings

namespace Command
open Settings

end Command

end NodeReclaim
