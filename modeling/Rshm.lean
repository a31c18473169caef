import Rshm.Hash.StringHash
import Rshm.Hmm.DevmemServes
import Rshm.Hmm.ExclusiveExact
import Rshm.Hmm.FaultCommit
import Rshm.Hmm.InvalidateExact
import Rshm.Hmm.IoctlWhole
import Rshm.Hmm.LiveMirror
import Rshm.Hmm.LoadUndone
import Rshm.Hmm.MigrateReports
import Rshm.Hmm.RemoveChunk
import Rshm.Hmm.StaleEntries
import Rshm.Hmm.SweepExact
import Rshm.Hmm.TransferEnds
import Rshm.Hmm.Underway
import Rshm.Hmm.WritesApart
import Rshm.Lib.Machine
import Rshm.Mm.EvictChunk
import Rshm.Mm.MigrateDevice
import Rshm.Mm.PagesOwned
import Rshm.Mm.Requests
import Rshm.Mm.RetrieveExact
import Rshm.Mm.ServerStop
import Rshm.Mm.SetupRefined
import Rshm.Rdma.AdvertisedRead
import Rshm.Rdma.ClientResources
import Rshm.Rdma.ConnectionSetup
import Rshm.Rdma.Delivered
import Rshm.Rdma.Endpoint
import Rshm.Rdma.ExactlyOnce
import Rshm.Rdma.MessageCopies
import Rshm.Rdma.Registration
import Rshm.Rdma.Session
