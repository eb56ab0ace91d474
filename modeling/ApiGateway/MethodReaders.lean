import ApiGateway.ProxyConfig
import ApiGateway.SnapshotContents

/-!
# Two readers of the method column

The column names methods separated by commas. The routes keep every piece of it,
the policies every piece that is not empty; both trim what they keep. A piece of
white space alone is an empty method for both.
-/

namespace ApiGateway.DatabaseProxyConfigProvider

open PolicyResolver

section Readers

variable {platform : Platform} {item : Product × Service × Endpoint}

end Readers

end ApiGateway.DatabaseProxyConfigProvider
