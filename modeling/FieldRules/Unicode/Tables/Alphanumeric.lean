import FieldRules.Unicode.Packed

/-!
Letters and numbers of every script.
-/

namespace FieldRules.Unicode.Tables

/-- Ranges of letters, decimal digits, other digits and other numbers. -/
def alphanumeric : Packed where
  keyBits := 21
  width := 42
  perRow := 8
  size := 733
  rows := #[
    0x5f0002f000174000b90005a8002d400166000b2000550002a8000f4000610002d0001040007200030,
    0x1ba000dc0005dc002ee00176000bb0005c8002e000168800b1800582000f80007b000360001ac000c0,
    0x1fa800e8c007420038e001c6000e300071400388001c3000e18006fe0037f001be800de8006ee00376,
    0x32500188000be4005ef002f500174000b1000560002ac80156400aac005310029780122800902003f7,
    0x388001c4000dfe006ff0037e001bb800dcc006e50036a801b5400da600671003378019b800cd200660,
    0x40d0020680102a00800003fd001fe800fea007f4003f5001f0000f62007b1003d2801d3400e5e00712,
    0x49c80241001192008a0004470022240110e0087000435002180010b000840004140020a00104800824,
    0x4d400264c013200098f004c60026140130000971004b7802598012c200958004a80025400127a0093d,
    0x4f8802798013c2009df004ee8027700139c009ce004de8026f401372009b6004d90026c801360009aa,
    0x51b0028d40146600a32005180028a80145000a130050800283c0141400a05004fe0027f0013f2009f4,
    0x554002a4c0152200a8f00546802a14014e800a7200537802998014bc00a5e0052e0029640147200a38,
    0x57c802be4015de00ae600570802b80015a000ad00055e802af40157200ab500559802ac80156000aaa,
    0x5ae802d700167a00b3d0059c802cd40166600b3200598002ca80165000b1300588002c3c0161800b05,
    0x5cd002e640172a00b92005c8002e380171400b85005c1802e0c016ee00b71005b7802d98016c200b5f,
    0x606003014017e400be6005e8002f400177200bae005d5002ea00174800ba3005cf802e780173800b9c,
    0x637803198018c200c600062e803174018b400c580061e8030f40187200c2a006140030480182000c0e,
    0x65e8032f40197200cb5006598032a80195000c92006480032380191800c8500640003200018fc00c78,
    0x69e8034f401a7400d120068800343801a1800d04006790033c4019de00ce600670803380019bc00cdd,
    0x6dd8036cc01b6200d9a006cb00361401afe00d7a006bc00359801ac200d58006ab00355001a9c00d4e,
    0x741003a0401cb200e500072300390001c6600e320071800380401bde00de6006e300370001b7a00dbd,
    0x762003b0001d7a00ebd00759803ac801d6000ea700752803a9401d4600e8c00745003a1801d0800e84,
    0x7c6003e2001ed800f49007a3803d0001e6600f2000780003c0001dbe00edc0076c803b4001d8c00ec6,
    0x8408041d4020e00106e00833004194020c2010610082e804168020aa01050008248040fc0205401000,
    0x92680492802490010fc0087d0043400219a010cd0086380431c0218a010a00084c8042400211c0108e,
    0x95f004ae00256a012b200958004a400251a0128a00944004980024ba0125a0092c004960024ac01250,
    0x9c7804e00026f801369009ad004c600262a0131200988004b60025ac012c800962804b0802580012c0,
    0xb88805c0002df0016ee00b75005a8002d340168100b3f8059bc02cd801401009fe804fe0027ea013a0,
    0xbf4805f8002fb8017dc00beb805f5c02f660178000bb8005db802ed80176000ba8805d0002e620171f,
    0xc8f006400031ea018b000c550062a8031500188700c42006200030f00182000c0c80604002ff2017f0,
    0xd44806a00034a801a2000d0b006800033b4019d000ce48066c0033560198000cba0065c0032da01946,
    0xe11807000037ca01bae00dd0006e0c036b201b5000da6006d140366601b0500d53806a9c0353201a90,
    0xe7b0073d4039e601cee00e760073a40397e01cbd00e5d0072400391001c8000e3e8071340389201c40,
    0xfac807d6403eae01f5000fa6807d2003e8a01f2000f8e807c6003e2a01e0000edf807400039f401cfa,
    0xfe6007f1803f8801fc200fdf007ef803f7801fb600fda007e0003efa01f5f00fae807d7403eb601f5b,
    0x10448081fc040f202074010388081c003ff801ff600ffa007fc803fd801fe000fed807f5803fa601fd0,
    0x109300849804248021240108e8084640422a02115010898084280420e02107010810084080413802090,
    0x124d8091800431202150010a700853804292021450109f8084f0042720212f010968084a80425002128,
    0x169380b49c05a4a02d000167e80b3f4059e602cf20167700b3ac059c802c00013c9809dd8049fe024ea,
    0x16df00b6e005b6c02db0016d700b6a005b4c02da0016cb00b60005ade02d6f016b380b4c005a5a02d2d,
    0x181a80c0c406052030210180380c01405c5e02e2f016ef00b76005bac02dd0016e700b72005b8c02dc0,
    0x18ca80c6480631c031310189780c414061fe030fc0187d00c2840613e0309d0184b00c1040607803038,
    0x26df80d0000657e032b10194480ca00064be032510192780c9200645203220018ff80c7c00637e031a0,
    0x538f829c5c14dde0a6a00534e8299fc14cdc0a6400531582984014c180a5000527e8293401491804e00,
    0x540502a01c1500a0a80305400829fc814fb20a7d5053e9829f4c14fa20a7d0053e5029e2c14f100a722,
    0x547f02a3f4151f60a8fb0547b82a3c8151b20a8d00545982a208150e60a8400541a82a0c0150440a80c,
    0x551402a800153fc0a9e6054f202a780153b20a9cf054d902a610152f80a960054a302a4c01524a0a900,
    0x555b02aad4155620aab10555782a9f8154f40aa7a0553b02a980154b20aa500552582a910154840aa40,
    0x558702ac241560c0ab010557a02abc8155d40aae00556e82ab6c155840aac20556002ab001557a0aab9,
    0x6bd182b000157f20abf0055f102adc0156d20ab5c055ad02acc01565c0ab280559302ac801562c0ab11,
    0x7d9403ec7c1f63a0fb1d07d8b83ec4c1f60c0fb0007d6c83e9c01f4da0f90006bfd835f2c1af8c0d7b0,
    0x7ec783f5401fa7a0fbd307dd883ed181f6880fb4307da083ed001f67c0fb3e07d9e03ece01f66c0fb2a,
    0x7fdf03fd981feb40ff4107f9d03fc841fe320ff1007f7e03f9d81fce80fe7007efd83f7c01fb8e0fd92,
    0x801e8400f0200741002808013040034200161000007fee03ff681ffae0ffd207fe783ff281ff8e0ffc2,
    0x8168040a802053810280080c5840628202f0101400809984041c201f4100800802e8401402009a1003f,
    0x81ea840f442079e103c8081e1840e802073a10380081ba840d40206941032d08191840c00205f6102e1,
    0x82c50415f020af410570082b18414c020a4e105000827d841360209a6104b0082548412802093a10400,
    0x83aa841d0020e6c10600082de0416ec20b72105b3082d884168c20b4210597082ca84165020b241058c,
    0x841c0420dc2106a1080a084040420202100a10800083dd041ec820f6010787083c2841e0020ece10760,
    0x848d8423ec211ea108f4084790423802115e108a70844f0421e4210ec108580842a8420fc210781083c,
    0x85240429002146a10a190850b8428542142610a10085000427482139e109bc084db8426002127210920,
    0x85b9042d60216aa10b400859a842c00215de10aeb08572042b242158e10ac00854f842a00214fc10a60,
    0x873f04398021a7210d30086918433e8219e410cc0086590432002189010c00085d7842ea42172210b78,
    0x87fb043f8021f9610fb0087c0843dc021ea810f51087a2843cc021e4e10f0008758843ac021d5210e80,
    0x889304440c221f2110f0088740443402215e110830883a8441d4220e411071088378441482206e11003,
    0x88ed04474022388111c1088d904460c222ec11176088b90445402228e11147088a20445102227e11136,
    0x894e844a3c2251a1128a08944044a202250c112800891584484c2242211200088fa044784223b8111dc,
    0x8999844cc8226601132a08994044c4c226201130f08986044c14225f2112f00896f044ac0225501129f,
    0x8a3084517c228b21145008a2504511c2286811400089b0844d74226a0113500899e844cf42267211335,
    0x8b2204591022c5e1160008aed84576022b5c1158008a6c8453402298e114c708a628453102295e11480,
    0x8c1584600022e8c1174008b9d845cc022e341170008b64845b0022d70116b808b55045a0022cb211650,
    0x8ca08465042327e1193f08c978464602322c1191508c89846430232121190908c830463fc231e4118a0,
    0x8d1d0468e82346411a0b08d00046800233c6119e308cf0846784233a0119aa08cd3846680232b211950,
    0x8e360471402388011c4008e170470282381011c0008d7c046ac02353a11a9d08d44846970234a011a50,
    0x8eb404759c23aca11d6008eac84754023a8c11d4608e9804742c23a1211d0808e830474002391e11c72,
    0x9237049000247321200008fea047f0023f6011fb008f79047b8023b5211da008ecc04766023b1211d6a,
    0xb55f05a9c02d4d216a600b52f05a9002d470168000a3230510002685c13000097f804be4024a8612480,
    0xb5c785adf42d6ee16b630b5b085ad6c2d6b216b500b5a185ad002d65e16b000b57685ab402d59216ac0,
    0xc66a86200030fee170000b7f185bf8c2dfc216fe00b7cf85be4c2dea016f500b7a505bc002dd2c16e40,
    0xd97d86c5c0362ce1b1640d8a906c540362441b0000d7ff06bff435ff61aff50d7f986bfc031a1018d00,
    0xea4e0751583a8a81d4000e9bc074d803a5e61d2e00de4c86f240379101bc800de3e06f1c0378d41bc00,
    0xea828753143a9861d4bd0ea5d8752ec3a9721d4ae0ea560752a43a94c1d4a50ea510752883a93e1d49e,
    0xeaa80755283aa8c1d5460eaa20755003aa7c1d53b0ea9c8754783aa381d5160ea8a0754343aa141d507,
    0xebb7075d403ae9c1d7360eb9a075c583ae281d6fc0eb7d075b703adb41d6c20eb60075aa03ad4a1d552,
    0xf09e8784dc3c2581e1000ef8f077c003affe1d7ce0ebe5875f103af841d7aa0ebd4075e283af101d770,
    0xf3f7079fb43cfd61e7e80f3f3079f803c5f21e2f00f175878b003c55a1e2900f0a70785383c2921e140,
    0xf65787b2b43d9561ec710f4ac87a5403d2961e94b0f4a187a4003d19e1e8c70f46207a0003cffc1e7f0,
    0xf71387b89c3dc481ee240f71107b8843dc3e1ee050f70187b8003da7a1ed2f0f69687b4043d9681ecb1,
    0xf72587b92c3dc921ee490f72387b91c3dc841ee420f71d87b8ec3dc721ee390f71b87b8d03dc641ee29,
    0xf72f87b97c3dcba1ee5d0f72d87b96c3dcb21ee590f72b87b95c3dca81ee540f72907b9443dc9e1ee4d,
    0xf74487ba003dcfc1ee7e0f73e07b9e43dcee1ee740f73907b9b03dcd41ee670f73207b9903dcc41ee61,
    0x15b9c0a9c0054dbe200000fdfc87efc03e2181f1000f75d87baac3dd521eea50f75187ba843dd361ee8b,
    0x626943000017d0e8be0005d7c02ceb0167508ae0805703a2b740]

end FieldRules.Unicode.Tables
