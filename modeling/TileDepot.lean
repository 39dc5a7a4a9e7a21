import TileDepot.Exchange.Settings
import TileDepot.Main
import TileDepot.Proofs.Cache.Tee
import TileDepot.Proofs.Command.Purging
import TileDepot.Proofs.Config.Parameters
import TileDepot.Proofs.Config.Reloading
import TileDepot.Proofs.Query.Requests
import TileDepot.Proofs.Warming.Early
import TileDepot.Proofs.Warming.Warmup
import TileDepot.Proofs.Grid.Overflow
import TileDepot.Proofs.Query.Pieces
import TileDepot.Proofs.Query.Quoting
import TileDepot.Proofs.Cache.Serving
import TileDepot.Proofs.Cache.Address
import TileDepot.Proofs.Config.Validity
import TileDepot.Proofs.Server.Connections
