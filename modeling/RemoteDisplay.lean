import RemoteDisplay.Digest
import RemoteDisplay.EventLoop.Client
import RemoteDisplay.Frame.Scripted
import RemoteDisplay.Main
import RemoteDisplay.Proofs.CommandLine.Precedence
import RemoteDisplay.Proofs.Config.Colours
import RemoteDisplay.Proofs.EventLoop.Dispatch
import RemoteDisplay.Proofs.EventLoop.Refusals
import RemoteDisplay.Proofs.Frame.Access
import RemoteDisplay.Proofs.Frame.Animation
import RemoteDisplay.Proofs.Geometry.Edges
import RemoteDisplay.Proofs.Geometry.Extents
import RemoteDisplay.Proofs.Geometry.Intersection
import RemoteDisplay.Proofs.Loopback.Serving
import RemoteDisplay.Proofs.Output.Creation
import RemoteDisplay.Proofs.Output.Picture
import RemoteDisplay.Proofs.Output.Repainting
import RemoteDisplay.Proofs.Output.Requests
import RemoteDisplay.Proofs.Output.Resources
import RemoteDisplay.Proofs.Output.Settling
import RemoteDisplay.Proofs.Output.Shutdown
import RemoteDisplay.Proofs.Output.Statistics
import RemoteDisplay.Proofs.Output.Teardown
import RemoteDisplay.Proofs.Ring.Refinement
import RemoteDisplay.Proofs.Session.Conservation
import RemoteDisplay.Proofs.Session.Discarding
import RemoteDisplay.Proofs.Session.InFlight
import RemoteDisplay.Proofs.Session.Numbering
import RemoteDisplay.Proofs.Session.Painting
import RemoteDisplay.Proofs.Session.Readable
import RemoteDisplay.Proofs.Session.Records
import RemoteDisplay.Proofs.Session.Sharing
import RemoteDisplay.Proofs.Since
import RemoteDisplay.Proofs.Wire.Body
import RemoteDisplay.Rehearsal
import RemoteDisplay.Session.Client
import RemoteDisplay.Text.Quoted
