import CollectorGateway.Main
import CollectorGateway.Trial
import CollectorGateway.Proofs.Gateway.Replica
import CollectorGateway.Proofs.Gateway.Drops
import CollectorGateway.Proofs.Gateway.Attribution
import CollectorGateway.Proofs.Gateway.Signal
import CollectorGateway.Proofs.Gateway.Membership
import CollectorGateway.Proofs.Gateway.Readings
import CollectorGateway.Proofs.Client.LinkCycle
import CollectorGateway.Proofs.Client.Outbound
import CollectorGateway.Proofs.Client.Timing
import CollectorGateway.Proofs.Extents
import CollectorGateway.Proofs.Gateway.Telemetry
import CollectorGateway.Proofs.Gateway.Commands
import CollectorGateway.Proofs.RequestLines
import CollectorGateway.Proofs.Numeric.Rounding
import CollectorGateway.Proofs.Numeric.Shortest
import CollectorGateway.Proofs.Numeric.Gap
import CollectorGateway.Proofs.Numeric.Reading
import CollectorGateway.Proofs.Numeric.ReadBack
import CollectorGateway.Proofs.Json.RoundTrip
import CollectorGateway.Proofs.Json.Records
import CollectorGateway.Proofs.Sensor.MaskText
import CollectorGateway.Proofs.Sensor.RoundTrip
import CollectorGateway.Proofs.Device.RoundTrip
import CollectorGateway.Proofs.Sensor.Blocks
import CollectorGateway.Proofs.Gateway.Redelivery
import CollectorGateway.Proofs.Gateway.Grammar
import CollectorGateway.Proofs.EventLines
import CollectorGateway.Proofs.Gateway.Description
import CollectorGateway.Proofs.FrameCodec
import CollectorGateway.Proofs.RequestText
import CollectorGateway.Proofs.Client.Shutdown
import CollectorGateway.Proofs.Fields
